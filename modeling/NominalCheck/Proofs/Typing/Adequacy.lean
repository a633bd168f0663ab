import NominalCheck.Proofs.Typing.Stmt

/-!
# The checker decides the typing rules

The checker accepts exactly what the rules derive, and the type, scope and environment that it gives
are the derived ones. For each layer there is one statement in each direction:

* what is checked can be derived: `hasType_of_inferExpr`, `stmtTyped_of_checkStmt`, …
* what can be derived is checked: `exists_inferExpr_of_hasType`, `exists_checkStmt_of_stmtTyped`, …

Both directions go by induction over the tree and not over the derivation, since the rules are
syntax-directed up to the two rules for assignments and for calls. Which of two rules applies is
settled by what the assigned or called name stands for.

The two directions together are `check_iff_typed`.
-/

namespace NominalCheck

open CheckM

variable {cfg : Config} {env : Env} {scope s s' : Scope}

/-! ### Expressions -/

/-- The arguments have the types that they are annotated with. -/
theorem forall₂_hasType_of_inferArgs {args : List (Expr Unit)} {args' : List (Expr Ty)}
    (ih : ∀ e ∈ args, ∀ e', inferExpr cfg env scope e = .ok e' → HasType cfg env scope e e'.ann)
    (h : inferArgs cfg env scope args = .ok args') :
    List.Forall₂ (HasType cfg env scope) args (args'.map Expr.ann) :=
  List.forall₂_map_right_iff.2 (forall₂_imp_of_mem (inferArgs_eq_ok_iff.1 h) ih)

/-- **Soundness for expressions.** -/
theorem hasType_of_inferExpr {e : Expr Unit} {e' : Expr Ty}
    (h : inferExpr cfg env scope e = .ok e') : HasType cfg env scope e e'.ann := by
  induction e generalizing e' with
  | literal m v =>
    obtain ⟨t, hv, rfl⟩ := inferExpr_literal_eq_ok_iff.1 h
    exact .literal hv
  | var m x =>
    obtain ⟨t, hx, rfl⟩ := inferExpr_var_eq_ok_iff.1 h
    exact .var hx
  | binary m op l r ihl ihr =>
    obtain ⟨l', hl, r', hr, t, hop, rfl⟩ := inferExpr_binary_eq_ok_iff.1 h
    exact .binary (ihl hl) (ihr hr) hop
  | unary m op a ih =>
    obtain ⟨a', ha, t, hop, rfl⟩ := inferExpr_unary_eq_ok_iff.1 h
    exact .unary (ih ha) hop
  | builtinUnary m f a ih =>
    obtain ⟨a', ha, t, ⟨hf, rfl⟩ | ⟨hf, p, hsig, hfit⟩, rfl⟩ :=
      inferExpr_builtinUnary_eq_ok_iff.1 h
    · have ha' : HasType cfg env scope a a'.ann := ih ha
      exact .print hf ha'
    · exact .builtinUnary hf hsig (ih ha) hfit
  | builtinBinary m f a b iha ihb =>
    obtain ⟨a', ha, b', hb, p, q, t, hsig, hfit, rfl⟩ := inferExpr_builtinBinary_eq_ok_iff.1 h
    exact .builtinBinary hsig (iha ha) (ihb hb) hfit
  | call m f args ih =>
    by_cases hcls : f.name ∈ env.classes
    · obtain ⟨info, hinfo⟩ := Option.isSome_iff_exists.1 (Table.isSome_get?_iff.2 hcls)
      obtain ⟨args', hargs, hnew, rfl⟩ := (inferExpr_call_of_mem_eq_ok_iff hinfo).1 h
      exact .callClass hinfo (forall₂_hasType_of_inferArgs (fun e he _ ↦ ih e he) hargs) hnew
    · obtain ⟨args', hargs, t, hsig, rfl⟩ := (inferExpr_call_of_notMem_eq_ok_iff hcls).1 h
      exact .call hcls hsig (forall₂_hasType_of_inferArgs (fun e he _ ↦ ih e he) hargs)
  | construct m c args ih =>
    obtain ⟨info, hinfo, args', hargs, hnew, rfl⟩ := inferExpr_construct_eq_ok_iff.1 h
    exact .construct hinfo (forall₂_hasType_of_inferArgs (fun e he _ ↦ ih e he) hargs) hnew
  | field m o x ih =>
    obtain ⟨o', ho, c, info, t, hc, hinfo, hx, rfl⟩ := inferExpr_field_eq_ok_iff.1 h
    exact .field (hc ▸ ih ho) hinfo hx
  | method m o f args iho ih =>
    obtain ⟨o', ho, args', hargs, c, info, params, t, hc, hinfo, hf, hfit, rfl⟩ :=
      inferExpr_method_eq_ok_iff.1 h
    exact .method (hc ▸ iho ho) hinfo hf
      (forall₂_hasType_of_inferArgs (fun e he _ ↦ ih e he) hargs) hfit

theorem exists_inferArgs_of_forall₂_hasType {args : List (Expr Unit)} {ts : List Ty}
    (ih : ∀ e ∈ args, ∀ t, HasType cfg env scope e t →
      ∃ e', inferExpr cfg env scope e = .ok e' ∧ e'.ann = t)
    (h : List.Forall₂ (HasType cfg env scope) args ts) :
    ∃ args', inferArgs cfg env scope args = .ok args' ∧ args'.map Expr.ann = ts := by
  simp only [inferArgs_eq_ok_iff]
  induction h with
  | nil => exact ⟨[], .nil, rfl⟩
  | cons he _ ihs =>
    obtain ⟨e', he', rfl⟩ := ih _ List.mem_cons_self _ he
    obtain ⟨es', hes', rfl⟩ := ihs fun e hmem ↦ ih e (List.mem_cons_of_mem _ hmem)
    exact ⟨e' :: es', .cons he' hes', rfl⟩

/-- **Completeness for expressions.** -/
theorem exists_inferExpr_of_hasType {e : Expr Unit} {t : Ty} (h : HasType cfg env scope e t) :
    ∃ e', inferExpr cfg env scope e = .ok e' ∧ e'.ann = t := by
  induction e generalizing t with
  | literal m v =>
    cases h with
    | literal hv => exact ⟨_, inferExpr_literal_eq_ok_iff.2 ⟨t, hv, rfl⟩, rfl⟩
  | var m x =>
    cases h with
    | var hx => exact ⟨_, inferExpr_var_eq_ok_iff.2 ⟨t, hx, rfl⟩, rfl⟩
  | binary m op l r ihl ihr =>
    cases h with
    | binary hl hr hop =>
      obtain ⟨l', hl', rfl⟩ := ihl hl
      obtain ⟨r', hr', rfl⟩ := ihr hr
      exact ⟨_, inferExpr_binary_eq_ok_iff.2 ⟨l', hl', r', hr', t, hop, rfl⟩, rfl⟩
  | unary m op a ih =>
    cases h with
    | unary ha hop =>
      obtain ⟨a', ha', rfl⟩ := ih ha
      exact ⟨_, inferExpr_unary_eq_ok_iff.2 ⟨a', ha', t, hop, rfl⟩, rfl⟩
  | builtinUnary m f a ih =>
    cases h with
    | print hf ha =>
      obtain ⟨a', ha', rfl⟩ := ih ha
      exact ⟨_, inferExpr_builtinUnary_eq_ok_iff.2 ⟨a', ha', _, Or.inl ⟨hf, rfl⟩, rfl⟩, rfl⟩
    | builtinUnary hf hsig ha hfit =>
      obtain ⟨a', ha', rfl⟩ := ih ha
      exact ⟨_, inferExpr_builtinUnary_eq_ok_iff.2
        ⟨a', ha', t, Or.inr ⟨hf, _, hsig, hfit⟩, rfl⟩, rfl⟩
  | builtinBinary m f a b iha ihb =>
    cases h with
    | builtinBinary hsig ha hb hfit =>
      obtain ⟨a', ha', rfl⟩ := iha ha
      obtain ⟨b', hb', rfl⟩ := ihb hb
      exact ⟨_, inferExpr_builtinBinary_eq_ok_iff.2
        ⟨a', ha', b', hb', _, _, t, hsig, hfit, rfl⟩, rfl⟩
  | call m f args ih =>
    cases h with
    | call hcls hsig hargs =>
      obtain ⟨args', hargs', rfl⟩ := exists_inferArgs_of_forall₂_hasType (fun e he _ ↦ ih e he) hargs
      exact ⟨_, (inferExpr_call_of_notMem_eq_ok_iff hcls).2 ⟨args', hargs', t, hsig, rfl⟩, rfl⟩
    | callClass hcls hargs hnew =>
      obtain ⟨args', hargs', rfl⟩ := exists_inferArgs_of_forall₂_hasType (fun e he _ ↦ ih e he) hargs
      exact ⟨_, (inferExpr_call_of_mem_eq_ok_iff hcls).2 ⟨args', hargs', hnew, rfl⟩, rfl⟩
  | construct m c args ih =>
    cases h with
    | construct hcls hargs hnew =>
      obtain ⟨args', hargs', rfl⟩ := exists_inferArgs_of_forall₂_hasType (fun e he _ ↦ ih e he) hargs
      exact ⟨_, inferExpr_construct_eq_ok_iff.2 ⟨_, hcls, args', hargs', hnew, rfl⟩, rfl⟩
  | field m o x ih =>
    cases h with
    | field ho hcls hx =>
      obtain ⟨o', ho', hc⟩ := ih ho
      exact ⟨_, inferExpr_field_eq_ok_iff.2 ⟨o', ho', _, _, t, hc, hcls, hx, rfl⟩, rfl⟩
  | method m o f args iho ih =>
    cases h with
    | method ho hcls hf hargs hfit =>
      obtain ⟨o', ho', hc⟩ := iho ho
      obtain ⟨args', hargs', rfl⟩ := exists_inferArgs_of_forall₂_hasType (fun e he _ ↦ ih e he) hargs
      exact ⟨_, inferExpr_method_eq_ok_iff.2
        ⟨o', ho', args', hargs', _, _, _, t, hc, hcls, hf, hfit, rfl⟩, rfl⟩

/-! ### Statements -/

/-- The type of a block of two or more statements does not depend on the first. -/
theorem blockType_cons_cons (x y : Stmt Ty) (b : List (Stmt Ty)) :
    blockType (x :: y :: b) = blockType (y :: b) := rfl

/-- What holds of the statements of a block holds of the block. -/
theorem blockTyped_of_checkBlock {b : List (Stmt Unit)} {b' : List (Stmt Ty)}
    (ih : ∀ x ∈ b, ∀ s x' s', runIn s (checkStmt cfg env x) = (.ok x', s') →
      StmtTyped cfg env s x x'.ann s')
    (h : runIn s (checkBlock cfg env b) = (.ok b', s')) :
    BlockTyped cfg env s b (blockType b') s' := by
  induction b generalizing s b' with
  | nil =>
    obtain ⟨rfl, rfl⟩ := checkBlock_nil_eq_ok_iff.1 h
    exact .nil
  | cons x b ihb =>
    obtain ⟨x', s₁, hx, xs', hb, rfl⟩ := checkBlock_cons_eq_ok_iff.1 h
    have hx' : StmtTyped cfg env s x x'.ann s₁ := ih x List.mem_cons_self s x' s₁ hx
    -- The rules tell a last statement from one that others follow.
    cases b with
    | nil =>
      obtain ⟨rfl, rfl⟩ := checkBlock_nil_eq_ok_iff.1 hb
      exact .last hx'
    | cons y b =>
      have hb' := ihb (fun z hz ↦ ih z (List.mem_cons_of_mem _ hz)) hb
      obtain ⟨y', s₂, -, ys', -, rfl⟩ := checkBlock_cons_eq_ok_iff.1 hb
      rw [blockType_cons_cons]
      exact .cons hx' hb'

/-- **Soundness for statements.** -/
theorem stmtTyped_of_checkStmt {x : Stmt Unit} {x' : Stmt Ty}
    (h : runIn s (checkStmt cfg env x) = (.ok x', s')) : StmtTyped cfg env s x x'.ann s' := by
  induction x generalizing s x' s' with
  | assign m y e =>
    obtain ⟨e', he, ⟨bound, hy, hfit, rfl⟩ | ⟨hy, htop, rfl⟩, rfl⟩ := checkStmt_assign_eq_ok_iff.1 h
    · exact .reassign hy (hasType_of_inferExpr he) hfit
    · exact .introduce hy htop (hasType_of_inferExpr he)
  | destructure m ys e => exact absurd h checkStmt_destructure_ne_ok
  | expr m e =>
    obtain ⟨e', he, rfl, rfl⟩ := checkStmt_expr_eq_ok_iff.1 h
    have he' : HasType cfg env s' e e'.ann := hasType_of_inferExpr he
    exact .expr he'
  | ifElse m c a b iha ihb =>
    obtain ⟨c', hc, hbool, a', s₁, ha, b', hb, t, hta, rfl, rfl⟩ := checkStmt_ifElse_eq_ok_iff.1 h
    have hthen := blockTyped_of_checkBlock (fun x hx _ _ _ ↦ iha x hx) ha
    have helse := blockTyped_of_checkBlock (fun x hx _ _ _ ↦ ihb x hx) hb
    exact .ifElse (hbool ▸ hasType_of_inferExpr hc) (hta ▸ hthen) helse
  | ret m e =>
    obtain ⟨r, e', hfun, he, hfit, rfl, rfl⟩ := checkStmt_ret_eq_ok_iff.1 h
    cases he with
    | none => exact .retNone hfun hfit
    | some he => exact .ret hfun (hasType_of_inferExpr he) hfit
  | loop m c b ih =>
    obtain ⟨c', hc, hbool, b', hb, rfl⟩ := checkStmt_loop_eq_ok_iff.1 h
    exact .loop (hbool ▸ hasType_of_inferExpr hc)
      (blockTyped_of_checkBlock (fun x hx _ _ _ ↦ ih x hx) hb)
  | pass m =>
    obtain ⟨rfl, rfl⟩ := checkStmt_pass_eq_ok_iff.1 h
    exact .pass
  | setField m o y e =>
    obtain ⟨o', ho, e', he, c, info, declared, hc, hinfo, hy, hfit, rfl, rfl⟩ :=
      checkStmt_setField_eq_ok_iff.1 h
    exact .setField (hc ▸ hasType_of_inferExpr ho) hinfo hy (hasType_of_inferExpr he) hfit

/-- A block that the rules admit checks, if its statements do. -/
theorem exists_checkBlock_of_blockTyped {b : List (Stmt Unit)} {t : Ty}
    (ih : ∀ x ∈ b, ∀ s t s', StmtTyped cfg env s x t s' →
      ∃ x', runIn s (checkStmt cfg env x) = (.ok x', s') ∧ x'.ann = t)
    (h : BlockTyped cfg env s b t s') :
    ∃ b', runIn s (checkBlock cfg env b) = (.ok b', s') ∧ blockType b' = t := by
  induction b generalizing s t with
  | nil =>
    cases h
    exact ⟨[], checkBlock_nil_eq_ok_iff.2 ⟨rfl, rfl⟩, rfl⟩
  | cons x b ihb =>
    cases h with
    | last hx =>
      obtain ⟨x', hx', rfl⟩ := ih x List.mem_cons_self _ _ _ hx
      exact ⟨[x'], checkBlock_cons_eq_ok_iff.2
        ⟨x', s', hx', [], checkBlock_nil_eq_ok_iff.2 ⟨rfl, rfl⟩, rfl⟩, rfl⟩
    | cons hx hb =>
      obtain ⟨x', hx', -⟩ := ih x List.mem_cons_self _ _ _ hx
      obtain ⟨b', hb', rfl⟩ := ihb (fun z hz ↦ ih z (List.mem_cons_of_mem _ hz)) hb
      obtain ⟨y', s₂, -, ys', -, rfl⟩ := checkBlock_cons_eq_ok_iff.1 hb'
      exact ⟨x' :: y' :: ys', checkBlock_cons_eq_ok_iff.2 ⟨x', _, hx', _, hb', rfl⟩,
        blockType_cons_cons x' y' ys'⟩

/-- **Completeness for statements.** -/
theorem exists_checkStmt_of_stmtTyped {x : Stmt Unit} {t : Ty}
    (h : StmtTyped cfg env s x t s') :
    ∃ x', runIn s (checkStmt cfg env x) = (.ok x', s') ∧ x'.ann = t := by
  induction x generalizing s t s' with
  | assign m y e =>
    cases h with
    | reassign hy he hfit =>
      obtain ⟨e', he', rfl⟩ := exists_inferExpr_of_hasType he
      exact ⟨_, checkStmt_assign_eq_ok_iff.2 ⟨e', he', Or.inl ⟨_, hy, hfit, rfl⟩, rfl⟩, rfl⟩
    | introduce hy htop he =>
      obtain ⟨e', he', rfl⟩ := exists_inferExpr_of_hasType he
      exact ⟨_, checkStmt_assign_eq_ok_iff.2 ⟨e', he', Or.inr ⟨hy, htop, rfl⟩, rfl⟩, rfl⟩
  | destructure m ys e => cases h
  | expr m e =>
    cases h with
    | expr he =>
      obtain ⟨e', he', rfl⟩ := exists_inferExpr_of_hasType he
      exact ⟨_, checkStmt_expr_eq_ok_iff.2 ⟨e', he', rfl, rfl⟩, rfl⟩
  | ifElse m c a b iha ihb =>
    cases h with
    | ifElse hc ha hb =>
      obtain ⟨c', hc', hbool⟩ := exists_inferExpr_of_hasType hc
      obtain ⟨a', ha', hta⟩ := exists_checkBlock_of_blockTyped (fun x hx _ _ _ ↦ iha x hx) ha
      obtain ⟨b', hb', htb⟩ := exists_checkBlock_of_blockTyped (fun x hx _ _ _ ↦ ihb x hx) hb
      exact ⟨_, checkStmt_ifElse_eq_ok_iff.2
        ⟨c', hc', hbool, a', _, ha', b', hb', t, hta, htb, rfl⟩, rfl⟩
  | ret m e =>
    cases h with
    | retNone hfun hfit =>
      exact ⟨_, checkStmt_ret_eq_ok_iff.2 ⟨_, none, hfun, .none, hfit, rfl, rfl⟩, rfl⟩
    | ret hfun he hfit =>
      obtain ⟨e', he', rfl⟩ := exists_inferExpr_of_hasType he
      exact ⟨_, checkStmt_ret_eq_ok_iff.2 ⟨_, some e', hfun, .some he', hfit, rfl, rfl⟩, rfl⟩
  | loop m c b ih =>
    cases h with
    | loop hc hb =>
      obtain ⟨c', hc', hbool⟩ := exists_inferExpr_of_hasType hc
      obtain ⟨b', hb', -⟩ := exists_checkBlock_of_blockTyped (fun x hx _ _ _ ↦ ih x hx) hb
      exact ⟨_, checkStmt_loop_eq_ok_iff.2 ⟨c', hc', hbool, b', hb', rfl⟩, rfl⟩
  | pass m =>
    cases h
    exact ⟨_, checkStmt_pass_eq_ok_iff.2 ⟨rfl, rfl⟩, rfl⟩
  | setField m o y e =>
    cases h with
    | setField ho hcls hy he hfit =>
      obtain ⟨o', ho', hc⟩ := exists_inferExpr_of_hasType ho
      obtain ⟨e', he', rfl⟩ := exists_inferExpr_of_hasType he
      exact ⟨_, checkStmt_setField_eq_ok_iff.2
        ⟨o', ho', e', he', _, _, _, hc, hcls, hy, hfit, rfl, rfl⟩, rfl⟩

/-- A block is checked exactly as the rules derive it. -/
theorem exists_checkBlock_iff {b : List (Stmt Unit)} {t : Ty} :
    (∃ b', runIn s (checkBlock cfg env b) = (.ok b', s') ∧ blockType b' = t) ↔
      BlockTyped cfg env s b t s' := by
  constructor
  · rintro ⟨b', hb, rfl⟩
    exact blockTyped_of_checkBlock (fun _ _ _ _ _ ↦ stmtTyped_of_checkStmt) hb
  · exact exists_checkBlock_of_blockTyped fun _ _ _ _ _ ↦ exists_checkStmt_of_stmtTyped

/-! ### Definitions -/

/-- The definition of a variable checks exactly if its literal has a type that the declared one
accepts. -/
theorem exists_checkVarDef_iff {v : VarDef Unit} :
    (∃ v', checkVarDef v = .ok v') ↔ VarDefTyped v := by
  simp only [checkVarDef_eq_ok_iff]
  constructor
  · rintro ⟨-, t, hvalue, hfit, -⟩
    exact ⟨hvalue, hfit⟩
  · rintro ⟨hvalue, hfit⟩
    exact ⟨_, _, hvalue, hfit, rfl⟩

/-- A function checks exactly if the rules admit it, with the types of its variables known and those
of its body to be found. -/
theorem exists_checkFunDef_iff {f : FunDef Unit} :
    (∃ f', checkFunDef cfg env f = .ok f') ↔ FunDefTyped cfg env f := by
  have hscope : f.scope =
      ((Scope.function f.result).bindMany (f.params.map Binder.binding)).bindMany
        (f.vars.map VarDef.binding) := by
    rw [FunDef.scope, Scope.bindMany, Table.insertMany_append]
    rfl
  have hvars : (∃ vars, f.vars.mapM checkVarDef = .ok vars) ↔ ∀ v ∈ f.vars, VarDefTyped v := by
    simp only [exists_mapM_eq_ok_iff, exists_checkVarDef_iff]
  simp only [checkFunDef_eq_ok_iff]
  constructor
  · rintro ⟨-, vars, hv, body, s', hbody, -⟩
    exact ⟨hvars.1 ⟨vars, hv⟩, hscope ▸ exists_checkBlock_iff.1 ⟨body, hbody, rfl⟩⟩
  · rintro ⟨hv, hbody⟩
    obtain ⟨vars, hv'⟩ := hvars.2 hv
    obtain ⟨body, hbody', -⟩ := exists_checkBlock_iff.2 hbody
    exact ⟨_, vars, hv', body, _, hscope ▸ hbody', rfl⟩

theorem exists_checkClassDef_iff {c : ClassDef Unit} :
    (∃ c', checkClassDef cfg env c = .ok c') ↔ ClassDefTyped cfg env c := by
  have hfields : (∃ fields, c.fields.mapM checkVarDef = .ok fields) ↔
      ∀ v ∈ c.fields, VarDefTyped v := by
    simp only [exists_mapM_eq_ok_iff, exists_checkVarDef_iff]
  have hmethods : (∃ methods, c.methods.mapM (checkFunDef cfg env) = .ok methods) ↔
      ∀ f ∈ c.methods, FunDefTyped cfg env f := by
    simp only [exists_mapM_eq_ok_iff, exists_checkFunDef_iff]
  simp only [checkClassDef_eq_ok_iff]
  constructor
  · rintro ⟨-, fields, hf, methods, hm, -⟩
    exact ⟨hfields.1 ⟨fields, hf⟩, hmethods.1 ⟨methods, hm⟩⟩
  · rintro ⟨hf, hm⟩
    obtain ⟨fields, hf'⟩ := hfields.2 hf
    obtain ⟨methods, hm'⟩ := hmethods.2 hm
    exact ⟨_, fields, hf', methods, hm', rfl⟩

/-! ### Programs -/

/-- **A program checks exactly if the rules admit it**, with the type and the environment that they
give. -/
theorem exists_checkProgram_iff {p : Program Unit} {t : Ty} {env' : Env} :
    (∃ c, checkProgram cfg env p = .ok c ∧ c.type = t ∧ c.env = env') ↔
      ProgramTyped cfg env p t env' := by
  have hvars : (∃ vars, p.vars.mapM checkVarDef = .ok vars) ↔ ∀ v ∈ p.vars, VarDefTyped v := by
    simp only [exists_mapM_eq_ok_iff, exists_checkVarDef_iff]
  have hfuns : (∃ funs, p.funs.mapM (checkFunDef cfg (env.declare p)) = .ok funs) ↔
      ∀ f ∈ p.funs, FunDefTyped cfg (env.declare p) f := by
    simp only [exists_mapM_eq_ok_iff, exists_checkFunDef_iff]
  have hclasses : (∃ classes, p.classes.mapM (checkClassDef cfg (env.declare p)) = .ok classes) ↔
      ∀ c ∈ p.classes, ClassDefTyped cfg (env.declare p) c := by
    simp only [exists_mapM_eq_ok_iff, exists_checkClassDef_iff]
  simp only [checkProgram_eq_ok_iff]
  constructor
  · rintro ⟨-, ⟨vars, hv, funs, hf, classes, hc, stmts, s, hstmts, rfl⟩, rfl, rfl⟩
    exact ⟨hvars.1 ⟨vars, hv⟩, hfuns.1 ⟨funs, hf⟩, hclasses.1 ⟨classes, hc⟩,
      exists_checkBlock_iff.1 ⟨stmts, hstmts, rfl⟩⟩
  · rintro ⟨hv, hf, hc, hstmts⟩
    obtain ⟨vars, hv'⟩ := hvars.2 hv
    obtain ⟨funs, hf'⟩ := hfuns.2 hf
    obtain ⟨classes, hc'⟩ := hclasses.2 hc
    obtain ⟨stmts, hstmts', ht⟩ := exists_checkBlock_iff.2 hstmts
    exact ⟨_, ⟨vars, hv', funs, hf', classes, hc', stmts, _, hstmts', rfl⟩, ht, rfl⟩

/-- **The checker decides the typing rules.** It gives an expression a type exactly if the rules do,
it gives a statement a type and leaves a scope exactly if the rules do, and it gives a program a type
and an environment exactly if the rules do. -/
theorem check_iff_typed (cfg : Config) (env : Env) :
    (∀ (scope : Scope) (e : Expr Unit) (t : Ty),
      (∃ e', inferExpr cfg env scope e = .ok e' ∧ e'.ann = t) ↔ HasType cfg env scope e t) ∧
    (∀ (s : Scope) (x : Stmt Unit) (t : Ty) (s' : Scope),
      (∃ x', (checkStmt cfg env x).runIn s = (.ok x', s') ∧ x'.ann = t) ↔
        StmtTyped cfg env s x t s') ∧
    (∀ (p : Program Unit) (t : Ty) (env' : Env),
      (∃ c, checkProgram cfg env p = .ok c ∧ c.type = t ∧ c.env = env') ↔
        ProgramTyped cfg env p t env') := by
  refine ⟨fun scope e t ↦ ⟨?_, exists_inferExpr_of_hasType⟩,
    fun s x t s' ↦ ⟨?_, exists_checkStmt_of_stmtTyped⟩, fun p t env' ↦ exists_checkProgram_iff⟩
  · rintro ⟨e', he, rfl⟩
    exact hasType_of_inferExpr he
  · rintro ⟨x', hx, rfl⟩
    exact stmtTyped_of_checkStmt hx

end NominalCheck
