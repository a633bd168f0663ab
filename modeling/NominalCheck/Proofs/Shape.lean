import NominalCheck.Proofs.Tree.Erasure
import NominalCheck.Proofs.Context.Parts

/-!
# Checking keeps the shape of a program

The checked program is the program itself, annotated, and with its calls resolved: where a class is
called, the checked tree has a construction with the same name, place and arguments. Names, literals,
operators, places, the order of lists and their lengths are **all** kept.

The statements say that erasing what comes out gives `resolveCalls` of what went in. They follow the
structure of programs: expressions, statements, definitions. What has been resolved can be read off the
outcome, too: a call that is left is not one of a class (`notMem_classes_of_inferExpr_call`), and a
construction always is one (`mem_classes_of_inferExpr_construct`).
-/

namespace NominalCheck

open CheckM

variable {cfg : Config} {env : Env} {s s' : Scope}

/-! ### Expressions -/

theorem eraseArgs_of_inferArgs {args : List (Expr Unit)} {args' : List (Expr Ty)}
    (ih : ∀ e ∈ args, ∀ e', inferExpr cfg env s e = .ok e' → e'.erase = e.resolveCalls env)
    (h : inferArgs cfg env s args = .ok args') :
    eraseArgs args' = resolveCallsArgs env args := by
  have hargs := inferArgs_eq_ok_iff.1 h
  clear h
  induction hargs with
  | nil => rfl
  | @cons e e' es es' he _ ihes =>
    have hhead : e'.erase = e.resolveCalls env := ih e List.mem_cons_self e' he
    have htail : eraseArgs es' = resolveCallsArgs env es :=
      ihes fun a ha ↦ ih a (List.mem_cons_of_mem _ ha)
    rw [eraseArgs, resolveCallsArgs, hhead, htail]

/-- **A checked expression is the expression with its calls resolved.** -/
theorem erase_of_inferExpr {e : Expr Unit} {e' : Expr Ty} (h : inferExpr cfg env s e = .ok e') :
    e'.erase = e.resolveCalls env := by
  induction e generalizing e' with
  | literal m v =>
    obtain ⟨t, -, rfl⟩ := inferExpr_literal_eq_ok_iff.1 h
    rfl
  | var m x =>
    obtain ⟨t, -, rfl⟩ := inferExpr_var_eq_ok_iff.1 h
    rfl
  | binary m op l r ihl ihr =>
    obtain ⟨l', hl, r', hr, t, -, rfl⟩ := inferExpr_binary_eq_ok_iff.1 h
    rw [Expr.erase, Expr.resolveCalls, ihl hl, ihr hr, Mark.annotate_annotate_unit]
  | unary m op e ih =>
    obtain ⟨a, ha, t, -, rfl⟩ := inferExpr_unary_eq_ok_iff.1 h
    rw [Expr.erase, Expr.resolveCalls, ih ha, Mark.annotate_annotate_unit]
  | builtinUnary m f e ih =>
    obtain ⟨a, ha, t, -, rfl⟩ := inferExpr_builtinUnary_eq_ok_iff.1 h
    rw [Expr.erase, Expr.resolveCalls, ih ha, Mark.annotate_annotate_unit]
  | builtinBinary m f a b iha ihb =>
    obtain ⟨a', ha, b', hb, p, q, t, -, -, rfl⟩ := inferExpr_builtinBinary_eq_ok_iff.1 h
    rw [Expr.erase, Expr.resolveCalls, iha ha, ihb hb, Mark.annotate_annotate_unit]
  | call m f args ih =>
    -- The two sides decide by the same lookup whether this is a construction.
    cases hcls : env.classes.get? f.name with
    | some info =>
      have hmem : f.name ∈ env.classes := Table.mem_of_get?_eq_some hcls
      obtain ⟨args', hargs, -, rfl⟩ := (inferExpr_call_of_mem_eq_ok_iff hcls).1 h
      rw [Expr.erase, Expr.resolveCalls, if_pos hmem,
        eraseArgs_of_inferArgs (fun a ha _ ↦ ih a ha) hargs, Mark.annotate_annotate_unit]
    | none =>
      have hnotMem : f.name ∉ env.classes := Table.get?_eq_none_iff.1 hcls
      obtain ⟨args', hargs, t, -, rfl⟩ := (inferExpr_call_of_notMem_eq_ok_iff hnotMem).1 h
      rw [Expr.erase, Expr.resolveCalls, if_neg hnotMem,
        eraseArgs_of_inferArgs (fun a ha _ ↦ ih a ha) hargs, Mark.annotate_annotate_unit]
  | construct m c args ih =>
    obtain ⟨info, -, args', hargs, -, rfl⟩ := inferExpr_construct_eq_ok_iff.1 h
    rw [Expr.erase, Expr.resolveCalls, eraseArgs_of_inferArgs (fun a ha _ ↦ ih a ha) hargs,
      Mark.annotate_annotate_unit]
  | field m o x ih =>
    obtain ⟨o', ho, c, info, t, -, -, -, rfl⟩ := inferExpr_field_eq_ok_iff.1 h
    rw [Expr.erase, Expr.resolveCalls, ih ho, Mark.annotate_annotate_unit]
  | method m o f args iho ih =>
    obtain ⟨o', ho, args', hargs, c, info, params, t, -, -, -, -, rfl⟩ :=
      inferExpr_method_eq_ok_iff.1 h
    rw [Expr.erase, Expr.resolveCalls, iho ho,
      eraseArgs_of_inferArgs (fun a ha _ ↦ ih a ha) hargs, Mark.annotate_annotate_unit]

/-- An expression stays in its place, call or construction. -/
theorem span_of_inferExpr {e : Expr Unit} {e' : Expr Ty} (h : inferExpr cfg env s e = .ok e') :
    e'.span = e.span := by
  rw [← e'.span_erase, erase_of_inferExpr h, e.span_resolveCalls]

/-- A call that is left names no class. -/
theorem notMem_classes_of_inferExpr_call {e : Expr Unit} {m : Mark Ty} {f : Ident}
    {args : List (Expr Ty)} (h : inferExpr cfg env s e = .ok (.call m f args)) :
    f.name ∉ env.classes := by
  have hshape : (Expr.call m f args).erase = e.resolveCalls env := erase_of_inferExpr h
  cases e with
  | call m' g args' =>
    by_cases hg : g.name ∈ env.classes
    · simp [Expr.erase, Expr.resolveCalls, hg] at hshape
    · simp only [Expr.erase, Expr.resolveCalls, if_neg hg, Expr.call.injEq] at hshape
      exact hshape.2.1 ▸ hg
  | _ => simp [Expr.erase, Expr.resolveCalls] at hshape

/-- A construction names a class, whether it was written as one or as a call. -/
theorem mem_classes_of_inferExpr_construct {e : Expr Unit} {m : Mark Ty} {c : Ident}
    {args : List (Expr Ty)} (h : inferExpr cfg env s e = .ok (.construct m c args)) :
    c.name ∈ env.classes := by
  have hshape : (Expr.construct m c args).erase = e.resolveCalls env := erase_of_inferExpr h
  cases e with
  | call m' g args' =>
    by_cases hg : g.name ∈ env.classes
    · simp only [Expr.erase, Expr.resolveCalls, if_pos hg, Expr.construct.injEq] at hshape
      exact hshape.2.1 ▸ hg
    · simp [Expr.erase, Expr.resolveCalls, hg] at hshape
  | construct m' c' args' =>
    obtain ⟨info, hcls, -⟩ := inferExpr_construct_eq_ok_iff.1 h
    simp only [Expr.erase, Expr.resolveCalls, Expr.construct.injEq] at hshape
    exact hshape.2.1 ▸ Table.mem_of_get?_eq_some hcls
  | _ => simp [Expr.erase, Expr.resolveCalls] at hshape

/-! ### Statements -/

theorem eraseBlock_of_forall_mem {b : List (Stmt Unit)} {b' : List (Stmt Ty)}
    (ih : ∀ x ∈ b, ∀ x' s s', runIn s (checkStmt cfg env x) = (.ok x', s') →
      x'.erase = x.resolveCalls env)
    (h : runIn s (checkBlock cfg env b) = (.ok b', s')) :
    eraseBlock b' = resolveCallsBlock env b := by
  induction b generalizing s b' with
  | nil =>
    obtain ⟨rfl, -⟩ := checkBlock_nil_eq_ok_iff.1 h
    rfl
  | cons x b ihb =>
    obtain ⟨x', sx, hx, xs', hb, rfl⟩ := checkBlock_cons_eq_ok_iff.1 h
    have hhead : x'.erase = x.resolveCalls env := ih x List.mem_cons_self x' s sx hx
    have htail : eraseBlock xs' = resolveCallsBlock env b :=
      ihb (fun y hy ↦ ih y (List.mem_cons_of_mem _ hy)) hb
    rw [eraseBlock, resolveCallsBlock, hhead, htail]

/-- **A checked statement is the statement with its calls resolved.** -/
theorem erase_of_checkStmt {x : Stmt Unit} {x' : Stmt Ty}
    (h : runIn s (checkStmt cfg env x) = (.ok x', s')) : x'.erase = x.resolveCalls env := by
  induction x generalizing s s' x' with
  | assign m y e =>
    obtain ⟨e', he, -, rfl⟩ := checkStmt_assign_eq_ok_iff.1 h
    rw [Stmt.erase, Stmt.resolveCalls, erase_of_inferExpr he, Mark.annotate_annotate_unit]
  | destructure m ys e => exact absurd h checkStmt_destructure_ne_ok
  | expr m e =>
    obtain ⟨e', he, rfl, -⟩ := checkStmt_expr_eq_ok_iff.1 h
    rw [Stmt.erase, Stmt.resolveCalls, erase_of_inferExpr he, Mark.annotate_annotate_unit]
  | ifElse m c a b iha ihb =>
    obtain ⟨c', hc, -, a', sa, ha, b', hb, t, -, -, rfl⟩ := checkStmt_ifElse_eq_ok_iff.1 h
    have ha' : eraseBlock a' = resolveCallsBlock env a :=
      eraseBlock_of_forall_mem (fun x hx _ _ _ ↦ iha x hx) ha
    have hb' : eraseBlock b' = resolveCallsBlock env b :=
      eraseBlock_of_forall_mem (fun x hx _ _ _ ↦ ihb x hx) hb
    rw [Stmt.erase, Stmt.resolveCalls, erase_of_inferExpr hc, ha', hb', Mark.annotate_annotate_unit]
  | ret m e =>
    obtain ⟨r, e', -, he, -, rfl, -⟩ := checkStmt_ret_eq_ok_iff.1 h
    have he' : e'.map Expr.erase = e.map (Expr.resolveCalls env) := by
      cases he with
      | none => rfl
      | some he => exact congrArg some (erase_of_inferExpr he)
    rw [Stmt.erase, Stmt.resolveCalls, he', Mark.annotate_annotate_unit]
  | loop m c b ih =>
    obtain ⟨c', hc, -, b', hb, rfl⟩ := checkStmt_loop_eq_ok_iff.1 h
    have hb' : eraseBlock b' = resolveCallsBlock env b :=
      eraseBlock_of_forall_mem (fun x hx _ _ _ ↦ ih x hx) hb
    rw [Stmt.erase, Stmt.resolveCalls, erase_of_inferExpr hc, hb', Mark.annotate_annotate_unit]
  | pass m =>
    obtain ⟨rfl, -⟩ := checkStmt_pass_eq_ok_iff.1 h
    rfl
  | setField m o y e =>
    obtain ⟨o', ho, e', he, c, info, declared, -, -, -, -, rfl, -⟩ :=
      checkStmt_setField_eq_ok_iff.1 h
    rw [Stmt.erase, Stmt.resolveCalls, erase_of_inferExpr ho, erase_of_inferExpr he,
      Mark.annotate_annotate_unit]

theorem eraseBlock_of_checkBlock {b : List (Stmt Unit)} {b' : List (Stmt Ty)}
    (h : runIn s (checkBlock cfg env b) = (.ok b', s')) :
    eraseBlock b' = resolveCallsBlock env b :=
  eraseBlock_of_forall_mem (fun _ _ _ _ _ ↦ erase_of_checkStmt) h

/-! ### Definitions and programs -/

/-- The definition of a variable has no calls, so it is the same without its annotation. -/
theorem erase_of_checkVarDef {v : VarDef Unit} {v' : VarDef Ty} (h : checkVarDef v = .ok v') :
    v'.erase = v := by
  obtain ⟨t, -, -, rfl⟩ := checkVarDef_eq_ok_iff.1 h
  rfl

theorem map_erase_of_mapM_checkVarDef {vs : List (VarDef Unit)} {vs' : List (VarDef Ty)}
    (h : vs.mapM checkVarDef = .ok vs') : vs'.map VarDef.erase = vs :=
  (map_eq_map_of_mapM erase_of_checkVarDef h).trans (List.map_id vs)

theorem erase_of_checkFunDef {f : FunDef Unit} {f' : FunDef Ty}
    (h : checkFunDef cfg env f = .ok f') : f'.erase = f.resolveCalls env := by
  obtain ⟨vars, hvars, body, s', hbody, rfl⟩ := checkFunDef_eq_ok_iff.1 h
  rw [FunDef.erase, FunDef.resolveCalls, map_erase_of_mapM_checkVarDef hvars,
    eraseBlock_of_checkBlock hbody, Mark.annotate_annotate_unit]

theorem erase_of_checkClassDef {c : ClassDef Unit} {c' : ClassDef Ty}
    (h : checkClassDef cfg env c = .ok c') : c'.erase = c.resolveCalls env := by
  obtain ⟨fields, hfields, methods, hmethods, rfl⟩ := checkClassDef_eq_ok_iff.1 h
  rw [ClassDef.erase, ClassDef.resolveCalls, map_erase_of_mapM_checkVarDef hfields,
    map_eq_map_of_mapM erase_of_checkFunDef hmethods, Mark.annotate_annotate_unit]

/-- **Without annotations, a checked program is the program with its calls resolved.** -/
theorem erase_of_checkProgram {p : Program Unit} {c : Checked}
    (h : checkProgram cfg env p = .ok c) :
    c.program.erase = p.resolveCalls (env.declare p) := by
  obtain ⟨vars, hvars, funs, hfuns, classes, hclasses, stmts, s, hstmts, rfl⟩ :=
    checkProgram_eq_ok_iff.1 h
  rw [Program.erase, Program.resolveCalls, map_erase_of_mapM_checkVarDef hvars,
    map_eq_map_of_mapM erase_of_checkFunDef hfuns,
    map_eq_map_of_mapM erase_of_checkClassDef hclasses, eraseBlock_of_checkBlock hstmts]

/-- **Checking keeps the shape of a program.** Without its annotations, the checked program is the
program in which the calls of declared classes, at every depth, are constructions, and nothing else is
different. So no call in the checked program names a class, and every construction does. -/
theorem checkProgram_shape {cfg : Config} {env : Env} {p : Program Unit} {c : Checked}
    (h : checkProgram cfg env p = .ok c) :
    c.program.erase = p.resolveCalls (env.declare p) ∧
      (∀ m f args, Expr.call m f args ∈ c.program.nodes → f.name ∉ (env.declare p).classes) ∧
      (∀ m f args, Expr.construct m f args ∈ c.program.nodes →
        f.name ∈ (env.declare p).classes) := by
  refine ⟨erase_of_checkProgram h, fun m f args hnode ↦ ?_, fun m f args hnode ↦ ?_⟩
  · obtain ⟨n, -, s, hcheck⟩ := exists_node_of_checkProgram h hnode
    exact notMem_classes_of_inferExpr_call hcheck
  · obtain ⟨n, -, s, hcheck⟩ := exists_node_of_checkProgram h hnode
    exact mem_classes_of_inferExpr_construct hcheck

/-- A chunk that constructs an object of `A` in a method, and one as the argument of another
construction in the body of a loop. The condition of the loop calls a function. -/
def constructingChunk : Program Unit :=
  let m : Mark Unit := ⟨⟨0, 1⟩, ()⟩
  let ident (name : String) : Ident := ⟨name, m.span⟩
  let binder (name cls : String) : Binder := ⟨ident name, .cls cls, m.span⟩
  let newA : Expr Unit := .call m (ident "A") []
  { vars := []
    funs := [⟨ident "f", [], .bool, [], [.ret m (some (.literal m (.bool true)))], m⟩]
    classes := [⟨ident "A", [], [], m⟩,
      ⟨ident "B", [],
        [⟨ident "__init__", [binder "self" "B", binder "a" "A"], .none, [], [.pass m], m⟩,
          ⟨ident "make", [binder "self" "B"], .cls "A", [], [.ret m (some newA)], m⟩], m⟩]
    stmts := [.loop m (.call m (ident "f") [])
      [.assign m (ident "x") (.call m (ident "B") [newA])]]
    span := m.span }

/-- Three calls of the chunk become constructions, one in a method and two, one in the other, in a
loop. The call of the function stays a call. -/
theorem checkProgram_shape_constructingChunk :
    ∃ c, checkProgram .strict .builtins constructingChunk = .ok c ∧ c.program.nodes.length = 5 ∧
      c.program.erase = constructingChunk.resolveCalls (Env.builtins.declare constructingChunk) ∧
      (∀ m f args, Expr.call m f args ∈ c.program.nodes →
        f.name ∉ (Env.builtins.declare constructingChunk).classes) ∧
      (∀ m f args, Expr.construct m f args ∈ c.program.nodes →
        f.name ∈ (Env.builtins.declare constructingChunk).classes) := by
  have hcheck : ∃ c, checkProgram .strict .builtins constructingChunk = .ok c ∧
      c.program.nodes.length = 5 := ⟨_, rfl, rfl⟩
  obtain ⟨c, hc, hlength⟩ := hcheck
  exact ⟨c, hc, hlength, checkProgram_shape hc⟩

end NominalCheck
