import NominalCheck.Program.Basic

/-!
# Induction over expressions and statements

Calls hold lists of expressions and blocks are lists of statements, so the recursors that come with
the two types have a second motive for lists. The principles here have one motive: at a node with a
list below it, the statement may be used at **every member** of the list.

Both are the default for `induction`.
-/

namespace NominalCheck

variable {α : Type}

/-- Induction over expressions. -/
@[elab_as_elim, induction_eliminator]
theorem Expr.inductionOn {motive : Expr α → Prop}
    (literal : ∀ m v, motive (.literal m v))
    (var : ∀ m x, motive (.var m x))
    (binary : ∀ m op l r, motive l → motive r → motive (.binary m op l r))
    (unary : ∀ m op e, motive e → motive (.unary m op e))
    (builtinUnary : ∀ m f e, motive e → motive (.builtinUnary m f e))
    (builtinBinary : ∀ m f a b, motive a → motive b → motive (.builtinBinary m f a b))
    (call : ∀ m f args, (∀ e ∈ args, motive e) → motive (.call m f args))
    (construct : ∀ m c args, (∀ e ∈ args, motive e) → motive (.construct m c args))
    (field : ∀ m o x, motive o → motive (.field m o x))
    (method : ∀ m o f args, motive o → (∀ e ∈ args, motive e) → motive (.method m o f args))
    (e : Expr α) : motive e :=
  Expr.rec literal var binary unary builtinUnary builtinBinary call construct field method
    (fun _ h ↦ absurd h List.not_mem_nil)
    (fun _ _ he hes ↦ List.forall_mem_cons.2 ⟨he, hes⟩) e

/-- Induction over statements. -/
@[elab_as_elim, induction_eliminator]
theorem Stmt.inductionOn {motive : Stmt α → Prop}
    (assign : ∀ m x e, motive (.assign m x e))
    (destructure : ∀ m xs e, motive (.destructure m xs e))
    (expr : ∀ m e, motive (.expr m e))
    (ifElse : ∀ m c a b, (∀ x ∈ a, motive x) → (∀ x ∈ b, motive x) → motive (.ifElse m c a b))
    (ret : ∀ m e, motive (.ret m e))
    (loop : ∀ m c b, (∀ x ∈ b, motive x) → motive (.loop m c b))
    (pass : ∀ m, motive (.pass m))
    (setField : ∀ m o x e, motive (.setField m o x e))
    (x : Stmt α) : motive x :=
  Stmt.rec assign destructure expr ifElse ret loop pass setField
    (fun _ h ↦ absurd h List.not_mem_nil)
    (fun _ _ hx hxs ↦ List.forall_mem_cons.2 ⟨hx, hxs⟩) x

end NominalCheck
