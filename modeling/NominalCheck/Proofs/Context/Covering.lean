import NominalCheck.Proofs.Context.Growth
import NominalCheck.Proofs.Typing.Stmt

/-!
# What checks in a context checks in a larger one

A context covers another if everything that can be looked up in the other is found in it, with the
same answer. It may hold more variables, functions and classes, with one exception: it must not turn a
function of the other context into a class, because a **class hides a function** of the same name in a
call.

An expression that checks in a context comes out as the same tree in every context that covers it
(`inferExpr_of_covers`). For statements more can be said. A context that covers the one in which a run
**ends** knows all variables that the run introduces, so there the run repeats without a binding: each
introduction is a reassignment (`checkStmt_of_covers`).
-/

namespace NominalCheck

open CheckM

/-- Every lookup that succeeds in the first context has the same answer in the second, and functions
that can be called in the first can be called in the second. -/
structure Covers (env : Env) (s : Scope) (env' : Env) (s' : Scope) : Prop where
  /-- Both are at top level, or both are in functions with one result. -/
  kind : s.kind = s'.kind
  /-- What resolves keeps its type. -/
  resolve : ∀ x t, s.resolve? env x = some t → s'.resolve? env' x = some t
  /-- Functions keep their signatures. -/
  functions : ∀ f sig, env.functions.get? f = some sig → env'.functions.get? f = some sig
  /-- Classes keep their members. -/
  classes : ∀ c info, env.classes.get? c = some info → env'.classes.get? c = some info
  /-- No function that no class hides becomes hidden. -/
  callable : ∀ f ∈ env.functions, f ∉ env.classes → f ∉ env'.classes

variable {cfg : Config} {env env' : Env} {s s' s₁ s₂ : Scope}

namespace Covers

protected theorem refl (env : Env) (s : Scope) : Covers env s env s where
  kind := rfl
  resolve _ _ hx := hx
  functions _ _ hf := hf
  classes _ _ hc := hc
  callable _ _ hf := hf

/-- Where the globals of one environment cover those of another, they do so below any scope. -/
theorem in_scope (h : Covers env .topLevel env' .topLevel) (s : Scope) : Covers env s env' s where
  kind := rfl
  resolve x t hx := by
    rw [Scope.resolve?, Option.or_eq_some_iff] at hx ⊢
    exact hx.imp id (And.imp_right (h.resolve x t))
  functions := h.functions
  classes := h.classes
  callable := h.callable

/-- What covers a scope with the bindings that were introduced covers it without them. -/
theorem of_introduces {bs : List (String × Ty)} (hbs : Introduces env s bs)
    (h : Covers env (s.bindMany bs) env' s') : Covers env s env' s' where
  kind := h.kind
  resolve x t hx := h.resolve x t (hbs.resolve?_bindMany hx)
  functions := h.functions
  classes := h.classes
  callable := h.callable

/-- What covers the end of a run covers its start. -/
theorem of_run {α : Type} {names : List String} {x : CheckM α} {r : Except TypeError α}
    (hx : Grows env names x) (hrun : runIn s x = (r, s₁)) (h : Covers env s₁ env' s') :
    Covers env s env' s' := by
  obtain ⟨bs, hbs, rfl⟩ := hx.exists_introduces hrun
  exact h.of_introduces hbs

/-- A statement only introduces variables, so what covers its end covers its start. -/
theorem of_checkStmt {x : Stmt Unit} {r : Except TypeError (Stmt Ty)}
    (hrun : runIn s (checkStmt cfg env x) = (r, s₁)) (h : Covers env s₁ env' s') :
    Covers env s env' s' :=
  h.of_run (checkStmt_grows x) hrun

theorem of_checkBlock {b : List (Stmt Unit)} {r : Except TypeError (List (Stmt Ty))}
    (hrun : runIn s (checkBlock cfg env b) = (r, s₁)) (h : Covers env s₁ env' s') :
    Covers env s env' s' :=
  h.of_run (checkBlock_grows b) hrun

end Covers

/-! ### Expressions -/

theorem inferArgs_of_covers {args : List (Expr Unit)} {args' : List (Expr Ty)}
    (ih : ∀ e ∈ args, ∀ e', inferExpr cfg env s e = .ok e' → inferExpr cfg env' s' e = .ok e')
    (h : inferArgs cfg env s args = .ok args') : inferArgs cfg env' s' args = .ok args' := by
  rw [inferArgs_eq_ok_iff] at h ⊢
  exact forall₂_imp_of_mem h ih

/-- **An expression comes out as the same tree in a larger context.** -/
theorem inferExpr_of_covers (h : Covers env s env' s') {e : Expr Unit} {e' : Expr Ty}
    (he : inferExpr cfg env s e = .ok e') : inferExpr cfg env' s' e = .ok e' := by
  induction e generalizing e' with
  | literal m v =>
    rw [inferExpr_literal_eq_ok_iff] at he ⊢
    exact he
  | var m x =>
    obtain ⟨t, hx, rfl⟩ := inferExpr_var_eq_ok_iff.1 he
    exact inferExpr_var_eq_ok_iff.2 ⟨t, h.resolve x t hx, rfl⟩
  | binary m op l r ihl ihr =>
    obtain ⟨l', hl, r', hr, t, hop, rfl⟩ := inferExpr_binary_eq_ok_iff.1 he
    exact inferExpr_binary_eq_ok_iff.2 ⟨l', ihl hl, r', ihr hr, t, hop, rfl⟩
  | unary m op e ih =>
    obtain ⟨a, ha, t, hop, rfl⟩ := inferExpr_unary_eq_ok_iff.1 he
    exact inferExpr_unary_eq_ok_iff.2 ⟨a, ih ha, t, hop, rfl⟩
  | builtinUnary m f e ih =>
    obtain ⟨a, ha, t, ht, rfl⟩ := inferExpr_builtinUnary_eq_ok_iff.1 he
    refine inferExpr_builtinUnary_eq_ok_iff.2 ⟨a, ih ha, t, ht.imp id ?_, rfl⟩
    rintro ⟨hf, p, hsig, hfit⟩
    exact ⟨hf, p, h.functions f.name _ hsig, hfit⟩
  | builtinBinary m f a b iha ihb =>
    obtain ⟨a', ha, b', hb, p, q, t, hsig, hfit, rfl⟩ := inferExpr_builtinBinary_eq_ok_iff.1 he
    exact inferExpr_builtinBinary_eq_ok_iff.2
      ⟨a', iha ha, b', ihb hb, p, q, t, h.functions f.name _ hsig, hfit, rfl⟩
  | call m f args ih =>
    cases hcls : env.classes.get? f.name with
    | some info =>
      obtain ⟨args', hargs, hnew, rfl⟩ := (inferExpr_call_of_mem_eq_ok_iff hcls).1 he
      exact (inferExpr_call_of_mem_eq_ok_iff (h.classes f.name info hcls)).2
        ⟨args', inferArgs_of_covers (fun a ha _ ↦ ih a ha) hargs, hnew, rfl⟩
    | none =>
      have hcls' : f.name ∉ env.classes := Table.get?_eq_none_iff.1 hcls
      obtain ⟨args', hargs, t, hsig, rfl⟩ := (inferExpr_call_of_notMem_eq_ok_iff hcls').1 he
      -- The callee is a function here, so it is no class in the larger context either.
      have hf : f.name ∈ env.functions := Table.mem_of_get?_eq_some hsig
      exact (inferExpr_call_of_notMem_eq_ok_iff (h.callable f.name hf hcls')).2
        ⟨args', inferArgs_of_covers (fun a ha _ ↦ ih a ha) hargs, t, h.functions f.name _ hsig, rfl⟩
  | construct m c args ih =>
    obtain ⟨info, hcls, args', hargs, hnew, rfl⟩ := inferExpr_construct_eq_ok_iff.1 he
    exact inferExpr_construct_eq_ok_iff.2 ⟨info, h.classes c.name info hcls, args',
      inferArgs_of_covers (fun a ha _ ↦ ih a ha) hargs, hnew, rfl⟩
  | field m o x ih =>
    obtain ⟨o', ho, c, info, t, hc, hcls, hx, rfl⟩ := inferExpr_field_eq_ok_iff.1 he
    exact inferExpr_field_eq_ok_iff.2
      ⟨o', ih ho, c, info, t, hc, h.classes c info hcls, hx, rfl⟩
  | method m o f args iho ih =>
    obtain ⟨o', ho, args', hargs, c, info, params, t, hc, hcls, hf, hfit, rfl⟩ :=
      inferExpr_method_eq_ok_iff.1 he
    exact inferExpr_method_eq_ok_iff.2 ⟨o', iho ho, args',
      inferArgs_of_covers (fun a ha _ ↦ ih a ha) hargs, c, info, params, t, hc,
      h.classes c info hcls, hf, hfit, rfl⟩

/-! ### Statements -/

/-- A variable that an assignment introduces is known at the end, with the type of the value, so the
same value can be assigned to it again. -/
theorem AssignTyped.of_covers {x : String} {t : Ty} (h : AssignTyped env s x t s₁)
    (hcov : Covers env s₁ env' s₂) : AssignTyped env' s₂ x t s₂ := by
  obtain ⟨bound, hx, hfit, rfl⟩ | ⟨-, -, rfl⟩ := h
  · exact Or.inl ⟨bound, hcov.resolve x bound hx, hfit, rfl⟩
  · have hx : (s.bind x t).resolve? env x = some t := by rw [Scope.resolve?_bind, if_pos rfl]
    exact Or.inl ⟨t, hcov.resolve x t hx, Ty.Accepts.refl t, rfl⟩

/-- A block repeats without a binding if its statements do. The context covers the end of the
**block**, so it covers the end of each statement, too. -/
theorem checkBlock_of_covers_of_forall_mem {b : List (Stmt Unit)} {b' : List (Stmt Ty)}
    (ih : ∀ x ∈ b, ∀ x' s s₁, Covers env s₁ env' s₂ →
      runIn s (checkStmt cfg env x) = (.ok x', s₁) →
        runIn s₂ (checkStmt cfg env' x) = (.ok x', s₂))
    (hcov : Covers env s₁ env' s₂) (h : runIn s (checkBlock cfg env b) = (.ok b', s₁)) :
    runIn s₂ (checkBlock cfg env' b) = (.ok b', s₂) := by
  induction b generalizing s b' with
  | nil =>
    obtain ⟨rfl, -⟩ := checkBlock_nil_eq_ok_iff.1 h
    exact checkBlock_nil_eq_ok_iff.2 ⟨rfl, rfl⟩
  | cons x b ihb =>
    obtain ⟨x', sx, hx, xs', hb, rfl⟩ := checkBlock_cons_eq_ok_iff.1 h
    have hcovx : Covers env sx env' s₂ := hcov.of_checkBlock hb
    exact checkBlock_cons_eq_ok_iff.2 ⟨x', s₂, ih x List.mem_cons_self x' s sx hcovx hx, xs',
      ihb (fun y hy ↦ ih y (List.mem_cons_of_mem _ hy)) hb, rfl⟩

/-- **A run repeats, without a binding, in every context that covers its end.** -/
theorem checkStmt_of_covers {x : Stmt Unit} {x' : Stmt Ty} (hcov : Covers env s₁ env' s₂)
    (h : runIn s (checkStmt cfg env x) = (.ok x', s₁)) :
    runIn s₂ (checkStmt cfg env' x) = (.ok x', s₂) := by
  -- Expressions are checked in scopes that the run passes through; what covers its end covers them.
  induction x generalizing s s₁ x' with
  | assign m y e =>
    obtain ⟨e', he, hassign, rfl⟩ := checkStmt_assign_eq_ok_iff.1 h
    have he' : inferExpr cfg env' s₂ e = .ok e' := inferExpr_of_covers (hcov.of_checkStmt h) he
    exact checkStmt_assign_eq_ok_iff.2 ⟨e', he', hassign.of_covers hcov, rfl⟩
  | destructure m ys e => exact absurd h checkStmt_destructure_ne_ok
  | expr m e =>
    obtain ⟨e', he, rfl, -⟩ := checkStmt_expr_eq_ok_iff.1 h
    have he' : inferExpr cfg env' s₂ e = .ok e' := inferExpr_of_covers (hcov.of_checkStmt h) he
    exact checkStmt_expr_eq_ok_iff.2 ⟨e', he', rfl, rfl⟩
  | ifElse m c a b iha ihb =>
    obtain ⟨c', hc, hbool, a', sa, ha, b', hb, t, hta, htb, rfl⟩ := checkStmt_ifElse_eq_ok_iff.1 h
    have hcova : Covers env sa env' s₂ := hcov.of_checkBlock hb
    have hc' : inferExpr cfg env' s₂ c = .ok c' := inferExpr_of_covers (hcov.of_checkStmt h) hc
    have ha' : runIn s₂ (checkBlock cfg env' a) = (.ok a', s₂) :=
      checkBlock_of_covers_of_forall_mem (fun x hx _ _ _ ↦ iha x hx) hcova ha
    have hb' : runIn s₂ (checkBlock cfg env' b) = (.ok b', s₂) :=
      checkBlock_of_covers_of_forall_mem (fun x hx _ _ _ ↦ ihb x hx) hcov hb
    exact checkStmt_ifElse_eq_ok_iff.2
      ⟨c', hc', hbool, a', s₂, ha', b', hb', t, hta, htb, rfl⟩
  | ret m e =>
    obtain ⟨r, e', hfun, he, hfit, rfl, -⟩ := checkStmt_ret_eq_ok_iff.1 h
    have hstart : Covers env s env' s₂ := hcov.of_checkStmt h
    have he' : Option.Rel (fun e e' ↦ inferExpr cfg env' s₂ e = .ok e') e e' := by
      cases he with
      | none => exact .none
      | some he => exact .some (inferExpr_of_covers hstart he)
    exact checkStmt_ret_eq_ok_iff.2 ⟨r, e', hstart.kind ▸ hfun, he', hfit, rfl, rfl⟩
  | loop m c b ih =>
    obtain ⟨c', hc, hbool, b', hb, rfl⟩ := checkStmt_loop_eq_ok_iff.1 h
    have hc' : inferExpr cfg env' s₂ c = .ok c' := inferExpr_of_covers (hcov.of_checkStmt h) hc
    have hb' : runIn s₂ (checkBlock cfg env' b) = (.ok b', s₂) :=
      checkBlock_of_covers_of_forall_mem (fun x hx _ _ _ ↦ ih x hx) hcov hb
    exact checkStmt_loop_eq_ok_iff.2 ⟨c', hc', hbool, b', hb', rfl⟩
  | pass m =>
    obtain ⟨rfl, -⟩ := checkStmt_pass_eq_ok_iff.1 h
    exact checkStmt_pass_eq_ok_iff.2 ⟨rfl, rfl⟩
  | setField m o y e =>
    obtain ⟨o', ho, e', he, c, info, declared, hc, hcls, hy, hfit, rfl, -⟩ :=
      checkStmt_setField_eq_ok_iff.1 h
    have hstart : Covers env s env' s₂ := hcov.of_checkStmt h
    exact checkStmt_setField_eq_ok_iff.2
      ⟨o', inferExpr_of_covers hstart ho, e', inferExpr_of_covers hstart he, c, info, declared, hc,
        hcov.classes c info hcls, hy, hfit, rfl, rfl⟩

theorem checkBlock_of_covers {b : List (Stmt Unit)} {b' : List (Stmt Ty)}
    (hcov : Covers env s₁ env' s₂) (h : runIn s (checkBlock cfg env b) = (.ok b', s₁)) :
    runIn s₂ (checkBlock cfg env' b) = (.ok b', s₂) :=
  checkBlock_of_covers_of_forall_mem (fun _ _ _ _ _ hx₁ ↦ checkStmt_of_covers hx₁) hcov h

/-! ### Definitions

The bodies of functions introduce nothing, so they end in the scope in which they start. -/

/-- A function has a scope of its own, so only what the environments hold at top level matters to
it. -/
theorem checkFunDef_of_covers (hcov : Covers env .topLevel env' .topLevel) {f : FunDef Unit}
    {f' : FunDef Ty} (h : checkFunDef cfg env f = .ok f') : checkFunDef cfg env' f = .ok f' := by
  obtain ⟨vars, hvars, body, s', hbody, rfl⟩ := checkFunDef_eq_ok_iff.1 h
  obtain rfl : s' = f.scope := (checkBlock_grows f.body).eq_of_function rfl hbody
  exact checkFunDef_eq_ok_iff.2
    ⟨vars, hvars, body, f.scope, checkBlock_of_covers (hcov.in_scope f.scope) hbody, rfl⟩

theorem mapM_checkFunDef_of_covers (hcov : Covers env .topLevel env' .topLevel)
    {fs : List (FunDef Unit)} {fs' : List (FunDef Ty)}
    (h : fs.mapM (checkFunDef cfg env) = .ok fs') : fs.mapM (checkFunDef cfg env') = .ok fs' := by
  rw [mapM_eq_ok_iff] at h ⊢
  exact h.imp fun _ _ ↦ checkFunDef_of_covers hcov

theorem checkClassDef_of_covers (hcov : Covers env .topLevel env' .topLevel) {c : ClassDef Unit}
    {c' : ClassDef Ty} (h : checkClassDef cfg env c = .ok c') :
    checkClassDef cfg env' c = .ok c' := by
  obtain ⟨fields, hfields, methods, hmethods, rfl⟩ := checkClassDef_eq_ok_iff.1 h
  exact checkClassDef_eq_ok_iff.2
    ⟨fields, hfields, methods, mapM_checkFunDef_of_covers hcov hmethods, rfl⟩

theorem mapM_checkClassDef_of_covers (hcov : Covers env .topLevel env' .topLevel)
    {cs : List (ClassDef Unit)} {cs' : List (ClassDef Ty)}
    (h : cs.mapM (checkClassDef cfg env) = .ok cs') :
    cs.mapM (checkClassDef cfg env') = .ok cs' := by
  rw [mapM_eq_ok_iff] at h ⊢
  exact h.imp fun _ _ ↦ checkClassDef_of_covers hcov

end NominalCheck
