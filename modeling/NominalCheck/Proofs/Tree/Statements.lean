import NominalCheck.Proofs.Tree.Nodes
import NominalCheck.Scope

/-!
# The statements in a program

The nodes of a statement are the statement itself and all statements in its blocks, at whatever depth.
They are listed from left to right, a statement before those in its blocks and the block for a true
condition before the other one. As for expressions, one step down is `Stmt.children`.

The expressions of a statement are the ones that it holds itself, its `Stmt.operands`, and those of the
statements below it. The **bodies** of a program are the blocks that are checked on their own: those of
its functions and methods, and the statements at top level.

An assignment binds its target to the annotation of its value. The bindings of a block are those of
all assignments in it, **nested blocks included**, so a name may be bound more than once.
-/

namespace NominalCheck

variable {α : Type}

/-- The statements in the blocks of a statement. -/
def Stmt.children : Stmt α → List (Stmt α)
  | .ifElse _ _ a b => a ++ b
  | .loop _ _ b => b
  | .assign _ _ _ | .destructure _ _ _ | .expr _ _ | .ret _ _ | .pass _ | .setField _ _ _ _ => []

mutual

/-- The statement itself and all statements below it. -/
def Stmt.nodes : Stmt α → List (Stmt α)
  | .assign m x e => [.assign m x e]
  | .destructure m xs e => [.destructure m xs e]
  | .expr m e => [.expr m e]
  | .ifElse m c a b => .ifElse m c a b :: (blockNodes a ++ blockNodes b)
  | .ret m e => [.ret m e]
  | .loop m c b => .loop m c b :: blockNodes b
  | .pass m => [.pass m]
  | .setField m o x e => [.setField m o x e]

/-- The nodes of all statements of a block. -/
def blockNodes : List (Stmt α) → List (Stmt α)
  | [] => []
  | x :: b => x.nodes ++ blockNodes b

end

/-- The nodes of a block are those of its statements in turn. -/
theorem blockNodes_eq_flatMap (b : List (Stmt α)) : blockNodes b = b.flatMap Stmt.nodes := by
  induction b with
  | nil => rfl
  | cons x b ih => rw [blockNodes, List.flatMap_cons, ih]

/-- And so are its expressions. -/
theorem blockExprs_eq_flatMap (b : List (Stmt α)) : blockExprs b = b.flatMap Stmt.exprs := by
  induction b with
  | nil => rfl
  | cons x b ih => rw [blockExprs, List.flatMap_cons, ih]

namespace Stmt

/-- A statement comes first, and then what is below it, one step down at a time. -/
theorem nodes_eq_cons (x : Stmt α) : x.nodes = x :: x.children.flatMap nodes := by
  cases x <;> simp [nodes, children, blockNodes_eq_flatMap]

/-- A node is the statement itself or a node of a child. -/
theorem mem_nodes_iff {x y : Stmt α} : y ∈ x.nodes ↔ y = x ∨ ∃ z ∈ x.children, y ∈ z.nodes := by
  rw [nodes_eq_cons, List.mem_cons, List.mem_flatMap]

/-- Induction step by step down, the same for all forms of statements. -/
theorem inductionOnChildren {motive : Stmt α → Prop}
    (step : ∀ x, (∀ y ∈ x.children, motive y) → motive x) (x : Stmt α) : motive x := by
  induction x with
  | ifElse m c a b iha ihb => exact step _ (List.forall_mem_append.2 ⟨iha, ihb⟩)
  | loop m c b ih => exact step _ ih
  | assign | destructure | expr | ret | pass | setField => exact step _ (by simp [children])

/-- What stands in the first block of a choice stands in the choice. -/
theorem subset_nodes_then (m : Mark α) (c : Expr α) (a b : List (Stmt α)) :
    blockNodes a ⊆ (ifElse m c a b).nodes := fun _ hy ↦
  List.mem_cons_of_mem _ (List.mem_append_left _ hy)

/-- And so does what stands in the second. -/
theorem subset_nodes_else (m : Mark α) (c : Expr α) (a b : List (Stmt α)) :
    blockNodes b ⊆ (ifElse m c a b).nodes := fun _ hy ↦
  List.mem_cons_of_mem _ (List.mem_append_right _ hy)

theorem subset_nodes_loop (m : Mark α) (c : Expr α) (b : List (Stmt α)) :
    blockNodes b ⊆ (loop m c b).nodes := fun _ hy ↦ List.mem_cons_of_mem _ hy

/-- The expressions that a statement holds itself, not counting those in its blocks. -/
def operands : Stmt α → List (Expr α)
  | .assign _ _ e | .destructure _ _ e | .expr _ e => [e]
  | .ifElse _ c _ _ | .loop _ c _ => [c]
  | .ret _ e => e.toList
  | .pass _ => []
  | .setField _ o _ e => [o, e]

/-- A statement has its own expressions before those of the statements below it. -/
theorem exprs_eq_append (x : Stmt α) : x.exprs = x.operands ++ x.children.flatMap exprs := by
  cases x <;> simp [exprs, operands, children, blockExprs_eq_flatMap]

/-- The expressions of a statement are the operands of its nodes. -/
theorem mem_exprs_iff {x : Stmt α} {e : Expr α} : e ∈ x.exprs ↔ ∃ y ∈ x.nodes, e ∈ y.operands := by
  induction x using inductionOnChildren with
  | step x ih =>
    have hbelow : e ∈ x.children.flatMap exprs ↔
        ∃ y ∈ x.children.flatMap nodes, e ∈ y.operands := by
      simp only [List.mem_flatMap]
      constructor
      · rintro ⟨z, hz, he⟩
        obtain ⟨y, hy, he⟩ := (ih z hz).1 he
        exact ⟨y, ⟨z, hz, hy⟩, he⟩
      · rintro ⟨y, ⟨z, hz, hy⟩, he⟩
        exact ⟨z, hz, (ih z hz).2 ⟨y, hy, he⟩⟩
    rw [exprs_eq_append, List.mem_append, hbelow, nodes_eq_cons]
    simp only [List.mem_cons, exists_eq_or_imp]

/-- The binding that a statement itself makes: that of the target of an assignment. -/
def binding? : Stmt α → Option (String × α)
  | .assign _ x e => some (x.name, e.ann)
  | .destructure _ _ _ | .expr _ _ | .ifElse _ _ _ _ | .ret _ _ | .loop _ _ _ | .pass _
  | .setField _ _ _ _ => none

/-- The bindings that the assignments in a statement make, from left to right. -/
def bindings (x : Stmt α) : List (String × α) := x.nodes.filterMap binding?

/-- The names that are assigned to in a statement, from left to right. -/
def assignedNames (x : Stmt α) : List String := x.bindings.map Prod.fst

/-- A name is assigned to in a statement exactly if one of its nodes is an assignment to it. -/
theorem mem_assignedNames_iff {x : Stmt α} {name : String} :
    name ∈ x.assignedNames ↔ ∃ m y e, .assign m y e ∈ x.nodes ∧ y.name = name := by
  simp only [assignedNames, bindings, List.mem_map, List.mem_filterMap]
  constructor
  · rintro ⟨b, ⟨y, hy, hb⟩, rfl⟩
    cases y with
    | assign m y e =>
      cases hb
      exact ⟨m, y, e, hy, rfl⟩
    | destructure | expr | ifElse | ret | loop | pass | setField => cases hb
  · rintro ⟨m, y, e, hy, rfl⟩
    exact ⟨(y.name, e.ann), ⟨_, hy, rfl⟩, rfl⟩

end Stmt

/-- The bindings that the assignments in a block make, from left to right. -/
def blockBindings (b : List (Stmt α)) : List (String × α) := (blockNodes b).filterMap Stmt.binding?

/-- The names that are assigned to in a block, from left to right. -/
def blockTargets (b : List (Stmt α)) : List String := (blockBindings b).map Prod.fst

@[simp] theorem blockBindings_nil : blockBindings ([] : List (Stmt α)) = [] := rfl

@[simp] theorem blockBindings_cons (x : Stmt α) (b : List (Stmt α)) :
    blockBindings (x :: b) = x.bindings ++ blockBindings b :=
  List.filterMap_append

@[simp] theorem Stmt.bindings_ifElse (m : Mark α) (c : Expr α) (a b : List (Stmt α)) :
    (Stmt.ifElse m c a b).bindings = blockBindings a ++ blockBindings b :=
  List.filterMap_append

@[simp] theorem Stmt.bindings_loop (m : Mark α) (c : Expr α) (b : List (Stmt α)) :
    (Stmt.loop m c b).bindings = blockBindings b := rfl

/-- The targets of a block are those of its statements in turn. -/
theorem blockTargets_cons (x : Stmt α) (b : List (Stmt α)) :
    blockTargets (x :: b) = x.assignedNames ++ blockTargets b := by
  rw [blockTargets, blockBindings_cons, List.map_append]
  rfl

/-- The targets of a choice are those of both blocks. -/
theorem Stmt.assignedNames_ifElse (m : Mark α) (c : Expr α) (a b : List (Stmt α)) :
    (Stmt.ifElse m c a b).assignedNames = blockTargets a ++ blockTargets b := by
  rw [assignedNames, bindings_ifElse, List.map_append]
  rfl

/-- A node of a block is one of its statements or stands below one. -/
theorem mem_blockNodes_iff {b : List (Stmt α)} {y : Stmt α} :
    y ∈ blockNodes b ↔ ∃ x ∈ b, y ∈ x.nodes := by
  rw [blockNodes_eq_flatMap, List.mem_flatMap]

/-- The expressions of a block are held by its nodes. -/
theorem mem_blockExprs_iff {b : List (Stmt α)} {e : Expr α} :
    e ∈ blockExprs b ↔ ∃ y ∈ blockNodes b, e ∈ y.operands := by
  rw [blockExprs_eq_flatMap, List.mem_flatMap]
  simp only [Stmt.mem_exprs_iff, mem_blockNodes_iff]
  constructor
  · rintro ⟨x, hx, y, hy, he⟩
    exact ⟨y, ⟨x, hx, hy⟩, he⟩
  · rintro ⟨y, ⟨x, hx, hy⟩, he⟩
    exact ⟨x, hx, y, hy, he⟩

/-! ### Programs -/

namespace Program

/-- All functions of a program, its own and the methods of its classes. -/
def functions (p : Program α) : List (FunDef α) := p.funs ++ p.classes.flatMap ClassDef.methods

/-- All definitions of variables in a program: the globals, the local variables and the fields. -/
def varDefs (p : Program α) : List (VarDef α) :=
  p.vars ++ p.functions.flatMap FunDef.vars ++ p.classes.flatMap ClassDef.fields

/-- The blocks of a program, each with the scope in which it is checked. -/
def bodies (p : Program α) : List (Scope × List (Stmt α)) :=
  p.functions.map (fun f ↦ (f.scope, f.body)) ++ [(.topLevel, p.stmts)]

end Program

end NominalCheck
