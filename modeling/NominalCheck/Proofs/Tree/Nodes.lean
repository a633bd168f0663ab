import NominalCheck.Proofs.Tree.Induction

/-!
# The expressions in a program

The nodes of an expression are the expression itself and all expressions below it, at whatever depth.
The nodes of a program are those of every expression that stands in the body of a function or method,
or among the statements at top level, **nested blocks included**.

All of them are listed from left to right, an expression before the expressions below it. One step
down is `Expr.children`, and `Expr.mem_nodes_iff` says that a node is reached by such steps.
-/

namespace NominalCheck

variable {α : Type}

/-! ### Expressions -/

/-- The expressions one step below the root. -/
def Expr.children : Expr α → List (Expr α)
  | .literal _ _ | .var _ _ => []
  | .binary _ _ l r => [l, r]
  | .unary _ _ e => [e]
  | .builtinUnary _ _ e => [e]
  | .builtinBinary _ _ a b => [a, b]
  | .call _ _ args | .construct _ _ args => args
  | .field _ o _ => [o]
  | .method _ o _ args => o :: args

mutual

/-- The expression itself and all expressions below it. -/
def Expr.nodes : Expr α → List (Expr α)
  | .literal m v => [.literal m v]
  | .var m x => [.var m x]
  | .binary m op l r => .binary m op l r :: (l.nodes ++ r.nodes)
  | .unary m op e => .unary m op e :: e.nodes
  | .builtinUnary m f e => .builtinUnary m f e :: e.nodes
  | .builtinBinary m f a b => .builtinBinary m f a b :: (a.nodes ++ b.nodes)
  | .call m f args => .call m f args :: argNodes args
  | .construct m c args => .construct m c args :: argNodes args
  | .field m o x => .field m o x :: o.nodes
  | .method m o f args => .method m o f args :: (o.nodes ++ argNodes args)

/-- The nodes of all arguments. -/
def argNodes : List (Expr α) → List (Expr α)
  | [] => []
  | e :: es => e.nodes ++ argNodes es

end

/-- The nodes of arguments are those of each in turn. -/
theorem argNodes_eq_flatMap (args : List (Expr α)) : argNodes args = args.flatMap Expr.nodes := by
  induction args with
  | nil => rfl
  | cons e es ih => rw [argNodes, List.flatMap_cons, ih]

namespace Expr

/-- The root comes first, and then the nodes of its parts. -/
theorem nodes_eq_cons (e : Expr α) : e.nodes = e :: e.children.flatMap nodes := by
  cases e <;> simp [nodes, children, argNodes_eq_flatMap]

/-- A node is the root or a node of a part. -/
theorem mem_nodes_iff {e n : Expr α} : n ∈ e.nodes ↔ n = e ∨ ∃ c ∈ e.children, n ∈ c.nodes := by
  rw [nodes_eq_cons, List.mem_cons, List.mem_flatMap]

theorem self_mem_nodes (e : Expr α) : e ∈ e.nodes := mem_nodes_iff.2 (Or.inl rfl)

/-- Induction step by step down, the same for all forms of expressions. -/
theorem inductionOnChildren {motive : Expr α → Prop}
    (step : ∀ e, (∀ c ∈ e.children, motive c) → motive e) (e : Expr α) : motive e := by
  induction e with
  | literal m v => exact step _ (by simp [children])
  | var m x => exact step _ (by simp [children])
  | binary m op l r ihl ihr => exact step _ (by simp [children, ihl, ihr])
  | unary m op e ih => exact step _ (by simp [children, ih])
  | builtinUnary m f e ih => exact step _ (by simp [children, ih])
  | builtinBinary m f a b iha ihb => exact step _ (by simp [children, iha, ihb])
  | call m f args ih => exact step _ ih
  | construct m c args ih => exact step _ ih
  | field m o x ih => exact step _ (by simp [children, ih])
  | method m o f args iho ih => exact step _ (List.forall_mem_cons.2 ⟨iho, ih⟩)

/-- Nodes are closed under steps down. -/
theorem mem_nodes_of_mem_children {e n c : Expr α} (hn : n ∈ e.nodes) (hc : c ∈ n.children) :
    c ∈ e.nodes := by
  induction e using inductionOnChildren with
  | step e ih =>
    rcases mem_nodes_iff.1 hn with rfl | ⟨d, hd, hn⟩
    · exact mem_nodes_iff.2 (Or.inr ⟨c, hc, self_mem_nodes c⟩)
    · exact mem_nodes_iff.2 (Or.inr ⟨d, hd, ih d hd hn⟩)

end Expr

/-! ### Statements and programs -/

mutual

/-- The expressions that stand in the statement or in a block of it. -/
def Stmt.exprs : Stmt α → List (Expr α)
  | .assign _ _ e | .destructure _ _ e | .expr _ e => [e]
  | .ifElse _ c a b => c :: (blockExprs a ++ blockExprs b)
  | .ret _ e => e.toList
  | .loop _ c b => c :: blockExprs b
  | .pass _ => []
  | .setField _ o _ e => [o, e]

/-- The expressions that stand in the statements of a block. -/
def blockExprs : List (Stmt α) → List (Expr α)
  | [] => []
  | x :: b => x.exprs ++ blockExprs b

end

/-- The nodes of the expressions in a block. -/
def blockExprNodes (b : List (Stmt α)) : List (Expr α) := (blockExprs b).flatMap Expr.nodes

/-- The expressions that stand in the body. -/
def FunDef.exprs (f : FunDef α) : List (Expr α) := blockExprs f.body

/-- The expressions that stand in the bodies of the methods. -/
def ClassDef.exprs (c : ClassDef α) : List (Expr α) := c.methods.flatMap FunDef.exprs

namespace Program

/-- The expressions that stand in a body or at top level. -/
def exprs (p : Program α) : List (Expr α) :=
  p.funs.flatMap FunDef.exprs ++ p.classes.flatMap ClassDef.exprs ++ blockExprs p.stmts

/-- The nodes of all expressions in the program. -/
def nodes (p : Program α) : List (Expr α) := p.exprs.flatMap Expr.nodes

end Program

end NominalCheck
