import NominalCheck.Proofs.Tree.Statements

/-!
# The names that a block uses

A name is used where an expression is written with it, as a variable or as the name of what is called,
and where a statement assigns to it. `Expr.ident?` and `Stmt.targets` give these identifiers, each with
the place where it is written.

The name of a member is **not** among them. It is looked up in the class of its object, so what matters
there is the object: `Expr.access?` and `Stmt.access?` give it, with the place of the whole access.
-/

namespace NominalCheck

variable {α : Type}

/-! ### Identifiers -/

/-- The identifier that an expression is written with: a variable, a builtin, a callee or a class. -/
def Expr.ident? : Expr α → Option Ident
  | .var m x => some ⟨x, m.span⟩
  | .builtinUnary _ f _ | .builtinBinary _ f _ _ | .call _ f _ | .construct _ f _ => some f
  | .literal _ _ | .binary _ _ _ _ | .unary _ _ _ | .field _ _ _ | .method _ _ _ _ => none

/-- The identifiers that a statement assigns to. -/
def Stmt.targets : Stmt α → List Ident
  | .assign _ x _ => [x]
  | .destructure _ xs _ => xs
  | .expr _ _ | .ifElse _ _ _ _ | .ret _ _ | .loop _ _ _ | .pass _ | .setField _ _ _ _ => []

/-! ### Members -/

/-- The place of a use of a member, and the object whose member it is. -/
def Expr.access? : Expr α → Option (Span × Expr α)
  | .field m o _ | .method m o _ _ => some (m.span, o)
  | .literal _ _ | .var _ _ | .binary _ _ _ _ | .unary _ _ _ | .builtinUnary _ _ _
  | .builtinBinary _ _ _ _ | .call _ _ _ | .construct _ _ _ => none

/-- The place of an assignment to a field, and the object whose field it is. -/
def Stmt.access? : Stmt α → Option (Span × Expr α)
  | .setField m o _ _ => some (m.span, o)
  | .assign _ _ _ | .destructure _ _ _ | .expr _ _ | .ifElse _ _ _ _ | .ret _ _ | .loop _ _ _
  | .pass _ => none

/-! ### Blocks and programs -/

/-- The identifiers in a block. -/
def blockIdents (b : List (Stmt α)) : List Ident :=
  (blockExprNodes b).filterMap Expr.ident? ++ (blockNodes b).flatMap Stmt.targets

/-- The uses of members in a block. -/
def blockAccesses (b : List (Stmt α)) : List (Span × Expr α) :=
  (blockExprNodes b).filterMap Expr.access? ++ (blockNodes b).filterMap Stmt.access?

/-- The identifiers in the bodies of a program. -/
def Program.idents (p : Program α) : List Ident := p.bodies.flatMap fun body ↦ blockIdents body.2

variable {b : List (Stmt α)} {y : Stmt α} {e n : Expr α}

/-- An expression node of a block is reached through a statement and one of its expressions. -/
theorem mem_blockExprNodes (hy : y ∈ blockNodes b) (he : e ∈ y.operands) (hn : n ∈ e.nodes) :
    n ∈ blockExprNodes b :=
  List.mem_flatMap.2 ⟨e, mem_blockExprs_iff.2 ⟨y, hy, he⟩, hn⟩

/-- Expression nodes are closed under steps down. -/
theorem mem_blockExprNodes_of_mem_children {c : Expr α} (hn : n ∈ blockExprNodes b)
    (hc : c ∈ n.children) : c ∈ blockExprNodes b := by
  obtain ⟨e, he, hn⟩ := List.mem_flatMap.1 hn
  exact List.mem_flatMap.2 ⟨e, he, Expr.mem_nodes_of_mem_children hn hc⟩

/-- An expression contributes the identifier that it is written with. -/
theorem mem_blockIdents_of_ident? {x : Ident} (hn : n ∈ blockExprNodes b) (hx : n.ident? = some x) :
    x ∈ blockIdents b :=
  List.mem_append_left _ (List.mem_filterMap.2 ⟨n, hn, hx⟩)

/-- A statement contributes the identifiers that it assigns to. -/
theorem mem_blockIdents_of_mem_targets {x : Ident} (hy : y ∈ blockNodes b) (hx : x ∈ y.targets) :
    x ∈ blockIdents b :=
  List.mem_append_right _ (List.mem_flatMap.2 ⟨y, hy, hx⟩)

/-- Fields and methods are uses of members. -/
theorem mem_blockAccesses_of_expr {a : Span × Expr α} (hn : n ∈ blockExprNodes b)
    (ha : n.access? = some a) : a ∈ blockAccesses b :=
  List.mem_append_left _ (List.mem_filterMap.2 ⟨n, hn, ha⟩)

/-- And so are assignments to fields. -/
theorem mem_blockAccesses_of_stmt {a : Span × Expr α} (hy : y ∈ blockNodes b)
    (ha : y.access? = some a) : a ∈ blockAccesses b :=
  List.mem_append_right _ (List.mem_filterMap.2 ⟨y, hy, ha⟩)

end NominalCheck
