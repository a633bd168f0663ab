import NominalCheck.Proofs.Tree.Names

/-!
# The items of a program

The items of a program are its variables, its functions, its classes and its statements, listed in the
order in which they are checked.

The places in an item are those of the statements, expressions, identifiers and initial values that its
check looks at. The head of a function or class is taken as it is, so the places of declared names and
of parameters are **not** among them.
-/

namespace NominalCheck

variable {α : Type}

/-- A declaration, or a statement at top level. -/
inductive Item (α : Type) where
  | varDef (v : VarDef α)
  | funDef (f : FunDef α)
  | classDef (c : ClassDef α)
  | stmt (x : Stmt α)

/-- The item is a statement. -/
def Item.isStmt : Item α → Bool
  | .stmt _ => true
  | .varDef _ | .funDef _ | .classDef _ => false

namespace Program

/-- The variables, then the functions, then the classes. -/
def declarations (p : Program α) : List (Item α) :=
  p.vars.map .varDef ++ p.funs.map .funDef ++ p.classes.map .classDef

/-- The declarations, then the statements. -/
def items (p : Program α) : List (Item α) := p.declarations ++ p.stmts.map .stmt

variable {p : Program α}

/-- What comes before a declaration is declared, too. -/
theorem prefix_declarations_of_items {before after : List (Item α)} {u : Item α}
    (h : p.items = before ++ u :: after) (hu : u.isStmt = false) :
    before ++ [u] <+: p.declarations := by
  have hinit : before ++ [u] <+: p.items := by
    rw [h, List.append_cons before u after]
    exact List.prefix_append _ _
  rcases List.prefix_or_prefix_of_prefix hinit (List.prefix_append p.declarations _) with
    hdecl | hdecl
  · exact hdecl
  rcases List.prefix_concat_iff.1 hdecl with heq | ⟨stmts, rfl⟩
  · exact heq ▸ List.prefix_rfl
  · -- Here all declarations come before, so the item itself is a statement.
    rw [items, List.append_assoc, List.append_cancel_left_eq] at h
    have hmem : u ∈ p.stmts.map .stmt := h ▸ List.mem_append_right _ List.mem_cons_self
    obtain ⟨x, -, rfl⟩ := List.mem_map.1 hmem
    cases hu

end Program

/-! ### Places -/

/-- The places of the statements, the expressions and the identifiers in a block. -/
def blockSpans (b : List (Stmt α)) : List Span :=
  (blockNodes b).map Stmt.span ++ (blockExprNodes b).map Expr.span ++ (blockIdents b).map Ident.span

/-- The places of the definition and of its initial value. -/
def VarDef.spans (v : VarDef α) : List Span := [v.mark.span, v.valueSpan]

/-- The places in the local variables and the body. -/
def FunDef.spans (f : FunDef α) : List Span := f.vars.flatMap VarDef.spans ++ blockSpans f.body

/-- The places in the fields and the methods. -/
def ClassDef.spans (c : ClassDef α) : List Span :=
  c.fields.flatMap VarDef.spans ++ c.methods.flatMap FunDef.spans

/-- The places in an item. -/
def Item.spans : Item α → List Span
  | .varDef v => v.spans
  | .funDef f => f.spans
  | .classDef c => c.spans
  | .stmt x => blockSpans [x]

variable {b : List (Stmt α)}

/-- The statements of a block, at any depth, have their places in it. -/
theorem span_mem_blockSpans_of_stmt {y : Stmt α} (hy : y ∈ blockNodes b) : y.span ∈ blockSpans b :=
  List.mem_append_left _ (List.mem_append_left _ (List.mem_map_of_mem hy))

/-- The expressions of a block have their places in it, too. -/
theorem span_mem_blockSpans_of_expr {n : Expr α} (hn : n ∈ blockExprNodes b) :
    n.span ∈ blockSpans b :=
  List.mem_append_left _ (List.mem_append_right _ (List.mem_map_of_mem hn))

/-- And so have its identifiers. -/
theorem span_mem_blockSpans_of_ident {x : Ident} (hx : x ∈ blockIdents b) : x.span ∈ blockSpans b :=
  List.mem_append_right _ (List.mem_map_of_mem hx)

end NominalCheck
