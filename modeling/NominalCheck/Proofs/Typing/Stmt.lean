import NominalCheck.Proofs.Scope
import NominalCheck.Proofs.Typing.Expr

/-!
# Statements, definitions and programs that check

For every form of statement, and for blocks, definitions and whole programs, what a successful check
of it consists of. As for expressions, each statement is an equivalence that has the checked parts in
it; here it also says which scope is left.

Only a first assignment at top level changes the scope itself. All other forms hand it on, through
their blocks if they have any.
-/

namespace NominalCheck

open CheckM

variable {cfg : Config} {env : Env} {s s' : Scope} {m : Mark Unit} {x' : Stmt Ty}

/-! ### Simple statements -/

/-- The scope that an assignment of a value of type `t` to `x` leaves: the same one if the variable
is known and takes the value, and else, at top level, the one in which it is bound. -/
def AssignTyped (env : Env) (s : Scope) (x : String) (t : Ty) (s' : Scope) : Prop :=
  (∃ bound, s.resolve? env x = some bound ∧ bound.Accepts t ∧ s' = s) ∨
    (s.resolve? env x = none ∧ s.kind = .topLevel ∧ s' = s.bind x t)

/-- An assignment checks if its value does and if the target takes it. Looking the target up
**before** the value makes no difference to a success. -/
theorem checkStmt_assign_eq_ok_iff {x : Ident} {e : Expr Unit} :
    runIn s (checkStmt cfg env (.assign m x e)) = (.ok x', s') ↔
      ∃ e', inferExpr cfg env s e = .ok e' ∧ AssignTyped env s x.name e'.ann s' ∧
        x' = .assign (m.annotate .none) x e' := by
  rw [checkStmt, checkAssign, runIn_bind, runIn_reading]
  cases hx : s.resolve? env x.name with
  | some bound =>
    simp only [runIn_bind_eq_ok_iff, runIn_reading_eq_ok_iff, runIn_pure_eq_ok_iff,
      checkFits_eq_ok_iff]
    constructor
    · rintro ⟨e', _, ⟨he, rfl⟩, -, _, ⟨hfit, rfl⟩, rfl, rfl⟩
      exact ⟨e', he, Or.inl ⟨bound, hx, hfit, rfl⟩, rfl⟩
    · rintro ⟨e', he, ⟨_, hx', hfit, rfl⟩ | ⟨hx', -⟩, rfl⟩
      · obtain rfl := Option.some.inj (hx.symm.trans hx')
        exact ⟨e', s', ⟨he, rfl⟩, (), s', ⟨hfit, rfl⟩, rfl, rfl⟩
      · cases hx.symm.trans hx'
  | none =>
    simp only [runIn_bind_eq_ok_iff, runIn_reading_eq_ok_iff, runIn_pure_eq_ok_iff,
      ite_error_eq_ok_iff, Scope.isTopLevel_iff, runIn_bindVar_eq_ok_iff]
    constructor
    · rintro ⟨-, _, ⟨⟨htop, -⟩, rfl⟩, e', _, ⟨he, rfl⟩, -, _, rfl, rfl, rfl⟩
      exact ⟨e', he, Or.inr ⟨hx, htop, rfl⟩, rfl⟩
    · rintro ⟨e', he, ⟨_, hx', -⟩ | ⟨-, htop, rfl⟩, rfl⟩
      · cases hx.symm.trans hx'
      · exact ⟨(), s, ⟨⟨htop, trivial⟩, rfl⟩, e', s, ⟨he, rfl⟩, (), _, rfl, rfl, rfl⟩

/-- Destructuring is never accepted. -/
theorem checkStmt_destructure_ne_ok {xs : List Ident} {e : Expr Unit} :
    runIn s (checkStmt cfg env (.destructure m xs e)) ≠ (.ok x', s') := by
  rw [checkStmt]
  exact nofun

/-- An expression that stands as a statement gives the statement its type. -/
theorem checkStmt_expr_eq_ok_iff {e : Expr Unit} :
    runIn s (checkStmt cfg env (.expr m e)) = (.ok x', s') ↔
      ∃ e', inferExpr cfg env s e = .ok e' ∧ x' = .expr (m.annotate e'.ann) e' ∧ s' = s := by
  simp only [checkStmt, runIn_bind_eq_ok_iff, runIn_reading_eq_ok_iff, runIn_pure_eq_ok_iff]
  constructor
  · rintro ⟨e', _, ⟨he, rfl⟩, rfl, rfl⟩
    exact ⟨e', he, rfl, rfl⟩
  · rintro ⟨e', he, rfl, rfl⟩
    exact ⟨e', s', ⟨he, rfl⟩, rfl, rfl⟩

theorem checkStmt_pass_eq_ok_iff :
    runIn s (checkStmt cfg env (.pass m)) = (.ok x', s') ↔
      x' = .pass (m.annotate .none) ∧ s' = s := by
  rw [checkStmt, runIn_pure_eq_ok_iff]

/-- The type of what a `return` gives back. -/
def returnType (value : Option (Expr Ty)) : Ty := (value.map Expr.ann).getD .none

/-- Values are given back in functions only, and nothing given back counts as `None`. -/
theorem checkStmt_ret_eq_ok_iff {e : Option (Expr Unit)} :
    runIn s (checkStmt cfg env (.ret m e)) = (.ok x', s') ↔
      ∃ r e', s.kind = .function r ∧
        Option.Rel (fun e e' ↦ inferExpr cfg env s e = .ok e') e e' ∧
          r.Accepts (returnType e') ∧ x' = .ret (m.annotate (returnType e')) e' ∧ s' = s := by
  rw [checkStmt, runIn_reading_eq_ok_iff, checkReturn]
  cases hk : s.kind with
  | topLevel => simp
  | function r =>
    simp only [bind_eq_ok_iff, pure_eq_ok_iff, optionMapM_eq_ok_iff, checkFits_eq_ok_iff]
    constructor
    · rintro ⟨⟨e', he, -, hfit, rfl⟩, rfl⟩
      exact ⟨r, e', rfl, he, hfit, rfl, rfl⟩
    · rintro ⟨_, e', hr, he, hfit, rfl, rfl⟩
      cases hr
      exact ⟨⟨e', he, (), hfit, rfl⟩, rfl⟩

/-- The object, the field and the value of an assignment to a field, each with what is asked of it. -/
theorem checkStmt_setField_eq_ok_iff {o e : Expr Unit} {x : Ident} :
    runIn s (checkStmt cfg env (.setField m o x e)) = (.ok x', s') ↔
      ∃ o', inferExpr cfg env s o = .ok o' ∧ ∃ e', inferExpr cfg env s e = .ok e' ∧
        ∃ c info declared, o'.ann = .cls c ∧ env.classes.get? c = some info ∧
          info.fields.get? x.name = some declared ∧ declared.Accepts e'.ann ∧
            x' = .setField (m.annotate .none) o' x e' ∧ s' = s := by
  rw [checkStmt, runIn_reading_eq_ok_iff, checkSetField]
  simp only [bind_eq_ok_iff, pure_eq_ok_iff, fieldType_eq_ok_iff, checkFits_eq_ok_iff]
  constructor
  · rintro ⟨⟨o', ho, t, ⟨c, info, hc, hinfo, hx⟩, e', he, -, hfit, rfl⟩, rfl⟩
    exact ⟨o', ho, e', he, c, info, t, hc, hinfo, hx, hfit, rfl, rfl⟩
  · rintro ⟨o', ho, e', he, c, info, t, hc, hinfo, hx, hfit, rfl, rfl⟩
    exact ⟨⟨o', ho, t, ⟨c, info, hc, hinfo, hx⟩, e', he, (), hfit, rfl⟩, rfl⟩

/-! ### Blocks -/

@[simp] theorem checkBlock_nil_eq_ok_iff {b' : List (Stmt Ty)} :
    runIn s (checkBlock cfg env []) = (.ok b', s') ↔ b' = [] ∧ s' = s := by
  rw [checkBlock, runIn_pure_eq_ok_iff]

/-- A block checks statement by statement, each in the scope that the one before leaves. -/
theorem checkBlock_cons_eq_ok_iff {x : Stmt Unit} {b : List (Stmt Unit)} {b' : List (Stmt Ty)} :
    runIn s (checkBlock cfg env (x :: b)) = (.ok b', s') ↔
      ∃ x' s₁, runIn s (checkStmt cfg env x) = (.ok x', s₁) ∧
        ∃ xs', runIn s₁ (checkBlock cfg env b) = (.ok xs', s') ∧ b' = x' :: xs' := by
  simp only [checkBlock, runIn_bind_eq_ok_iff, runIn_pure_eq_ok_iff]
  constructor
  · rintro ⟨x', s₁, hx, xs', _, hb, rfl, rfl⟩
    exact ⟨x', s₁, hx, xs', hb, rfl⟩
  · rintro ⟨x', s₁, hx, xs', hb, rfl⟩
    exact ⟨x', s₁, hx, xs', s', hb, rfl, rfl⟩

/-- The second block of a choice starts in the scope that the **first** one leaves. -/
theorem checkStmt_ifElse_eq_ok_iff {c : Expr Unit} {a b : List (Stmt Unit)} :
    runIn s (checkStmt cfg env (.ifElse m c a b)) = (.ok x', s') ↔
      ∃ c', inferExpr cfg env s c = .ok c' ∧ c'.ann = .bool ∧
        ∃ a' s₁, runIn s (checkBlock cfg env a) = (.ok a', s₁) ∧
          ∃ b', runIn s₁ (checkBlock cfg env b) = (.ok b', s') ∧
            ∃ t, blockType a' = t ∧ blockType b' = t ∧
              x' = .ifElse (m.annotate t) c' a' b' := by
  simp only [checkStmt, runIn_bind_eq_ok_iff, runIn_reading_eq_ok_iff, runIn_pure_eq_ok_iff,
    inferCondition_eq_ok_iff, choiceType_eq_ok_iff]
  constructor
  · rintro ⟨c', _, ⟨⟨hc, hbool⟩, rfl⟩, a', s₁, ha, b', _, hb, t, _, ⟨⟨hta, htb⟩, rfl⟩, rfl, rfl⟩
    exact ⟨c', hc, hbool, a', s₁, ha, b', hb, t, hta, htb, rfl⟩
  · rintro ⟨c', hc, hbool, a', s₁, ha, b', hb, t, hta, htb, rfl⟩
    exact ⟨c', s, ⟨⟨hc, hbool⟩, rfl⟩, a', s₁, ha, b', s', hb, t, s', ⟨⟨hta, htb⟩, rfl⟩, rfl, rfl⟩

/-- A loop keeps what its body binds, and its own type is `None`. -/
theorem checkStmt_loop_eq_ok_iff {c : Expr Unit} {b : List (Stmt Unit)} :
    runIn s (checkStmt cfg env (.loop m c b)) = (.ok x', s') ↔
      ∃ c', inferExpr cfg env s c = .ok c' ∧ c'.ann = .bool ∧
        ∃ b', runIn s (checkBlock cfg env b) = (.ok b', s') ∧
          x' = .loop (m.annotate .none) c' b' := by
  simp only [checkStmt, runIn_bind_eq_ok_iff, runIn_reading_eq_ok_iff, runIn_pure_eq_ok_iff,
    inferCondition_eq_ok_iff]
  constructor
  · rintro ⟨c', _, ⟨⟨hc, hbool⟩, rfl⟩, b', _, hb, rfl, rfl⟩
    exact ⟨c', hc, hbool, b', hb, rfl⟩
  · rintro ⟨c', hc, hbool, b', hb, rfl⟩
    exact ⟨c', s, ⟨⟨hc, hbool⟩, rfl⟩, b', s', hb, rfl, rfl⟩

/-! ### Definitions and programs -/

/-- The definition of a variable is annotated with the type of its initial value, not with the
declared one. -/
theorem checkVarDef_eq_ok_iff {v : VarDef Unit} {v' : VarDef Ty} :
    checkVarDef v = .ok v' ↔ ∃ t, v.value.HasType t ∧ v.binder.type.Accepts t ∧
      v' = ⟨v.binder, v.value, v.valueSpan, v.mark.annotate t⟩ := by
  simp only [checkVarDef, bind_eq_ok_iff, pure_eq_ok_iff, literalType_eq_ok_iff,
    checkFits_eq_ok_iff]
  simp

/-- A body is a block whose scope is dropped if it fails. -/
theorem checkBody_eq_outcome (body : List (Stmt Unit)) :
    checkBody cfg env s body = outcome s (checkBlock cfg env body) := by
  rw [checkBody, outcome]
  rcases runIn s (checkBlock cfg env body) with ⟨_ | _, _⟩ <;> rfl

theorem checkBody_eq_ok_iff {body : List (Stmt Unit)} {body' : List (Stmt Ty)} :
    checkBody cfg env s body = .ok (body', s') ↔
      runIn s (checkBlock cfg env body) = (.ok body', s') := by
  rw [checkBody]
  rcases runIn s (checkBlock cfg env body) with ⟨_ | _, _⟩ <;> simp

/-- A function checks in a scope of its own, and what its body leaves in it is dropped. -/
theorem checkFunDef_eq_ok_iff {f : FunDef Unit} {f' : FunDef Ty} :
    checkFunDef cfg env f = .ok f' ↔ ∃ vars, f.vars.mapM checkVarDef = .ok vars ∧
      ∃ body s', runIn f.scope (checkBlock cfg env f.body) = (.ok body, s') ∧
        f' = ⟨f.name, f.params, f.result, vars, body, f.mark.annotate f.result⟩ := by
  simp only [checkFunDef, bind_eq_ok_iff, pure_eq_ok_iff, Prod.exists, checkBody_eq_ok_iff]

/-- A class is its fields and its methods, each checked on its own. -/
theorem checkClassDef_eq_ok_iff {c : ClassDef Unit} {c' : ClassDef Ty} :
    checkClassDef cfg env c = .ok c' ↔ ∃ fields, c.fields.mapM checkVarDef = .ok fields ∧
      ∃ methods, c.methods.mapM (checkFunDef cfg env) = .ok methods ∧
        c' = ⟨c.name, fields, methods, c.mark.annotate (.cls c.name.name)⟩ := by
  simp only [checkClassDef, bind_eq_ok_iff, pure_eq_ok_iff]

/-- **What a checked program consists of.** All of it is checked where everything is declared, and
what the statements bind is promoted at the end. -/
theorem checkProgram_eq_ok_iff {p : Program Unit} {c : Checked} :
    checkProgram cfg env p = .ok c ↔ ∃ vars, p.vars.mapM checkVarDef = .ok vars ∧
      ∃ funs, p.funs.mapM (checkFunDef cfg (env.declare p)) = .ok funs ∧
        ∃ classes, p.classes.mapM (checkClassDef cfg (env.declare p)) = .ok classes ∧
          ∃ stmts s,
            runIn .topLevel (checkBlock cfg (env.declare p) p.stmts) = (.ok stmts, s) ∧
              c = ⟨⟨vars, funs, classes, stmts, p.span⟩, (env.declare p).promote s,
                blockType stmts⟩ := by
  simp only [checkProgram, bind_eq_ok_iff, pure_eq_ok_iff, Prod.exists, checkBody_eq_ok_iff]

end NominalCheck
