import NominalCheck.Proofs.Shape

/-!
# Checking a program whose calls are resolved

A call of a class and the construction that it stands for are typed alike: the class is found, the
arguments are checked, the constructor is looked at. So it makes **no difference to the outcome**, be
it a tree or a fault, whether the calls of a program are resolved before it is checked. The statements
are equations between checks, from expressions (`inferExpr_resolveCalls`) to programs
(`checkProgram_resolveCalls`).

Neither annotations nor the bodies of functions have a part in what a program declares, so a program
and what it is checked to declare the same environment. Since the checked program is the program with
its calls resolved, checking it once more gives the same result.
-/

namespace NominalCheck

variable {α : Type} {cfg : Config} {env : Env} {s : Scope}

/-! ### Declarations -/

@[simp] theorem VarDef.binding_erase (v : VarDef α) : v.erase.binding = v.binding := rfl

@[simp] theorem FunDef.binding_erase (f : FunDef α) : f.erase.binding = f.binding := rfl

@[simp] theorem ClassDef.binding_erase (c : ClassDef α) : c.erase.binding = c.binding := by
  simp [binding, info, erase, Function.comp_def]

@[simp] theorem FunDef.binding_resolveCalls (env : Env) (f : FunDef α) :
    (f.resolveCalls env).binding = f.binding := rfl

@[simp] theorem ClassDef.binding_resolveCalls (env : Env) (c : ClassDef α) :
    (c.resolveCalls env).binding = c.binding := by
  simp [binding, info, resolveCalls, Function.comp_def]

/-- Dropping annotations drops no declaration. -/
theorem Env.declare_erase (env : Env) (p : Program α) : env.declare p.erase = env.declare p := by
  simp [declare, Program.erase, Function.comp_def]

/-- The bodies of functions and methods have no part in what is declared. -/
theorem Env.declare_resolveCalls (env env' : Env) (p : Program α) :
    env.declare (p.resolveCalls env') = env.declare p := by
  simp [declare, Program.resolveCalls, Function.comp_def]

/-! ### Expressions -/

theorem inferArgs_resolveCalls {args : List (Expr Unit)}
    (ih : ∀ e ∈ args, inferExpr cfg env s (e.resolveCalls env) = inferExpr cfg env s e) :
    inferArgs cfg env s (resolveCallsArgs env args) = inferArgs cfg env s args := by
  induction args with
  | nil => rfl
  | cons e es ihes =>
    rw [resolveCallsArgs, inferArgs, inferArgs, ih e List.mem_cons_self,
      ihes fun a ha ↦ ih a (List.mem_cons_of_mem _ ha)]

/-- A call of a class and its construction have the same outcome. -/
theorem inferExpr_construct_eq_call {m : Mark Unit} {f : Ident} {args : List (Expr Unit)}
    (hcls : f.name ∈ env.classes) :
    inferExpr cfg env s (.construct m f args) = inferExpr cfg env s (.call m f args) := by
  obtain ⟨info, hinfo⟩ := Option.isSome_iff_exists.1 (Table.isSome_get?_iff.2 hcls)
  have hfound : constructedClass env f = .ok info := constructedClass_eq_ok_iff.2 hinfo
  rw [inferExpr, inferExpr, hfound, hinfo]
  rfl

/-- **An expression and its resolved form have the same outcome.** -/
theorem inferExpr_resolveCalls (e : Expr Unit) :
    inferExpr cfg env s (e.resolveCalls env) = inferExpr cfg env s e := by
  induction e with
  | literal m v => rw [Expr.resolveCalls]
  | var m x => rw [Expr.resolveCalls]
  | binary m op l r ihl ihr => rw [Expr.resolveCalls, inferExpr, inferExpr, ihl, ihr]
  | unary m op e ih => rw [Expr.resolveCalls, inferExpr, inferExpr, ih]
  | builtinUnary m f e ih => rw [Expr.resolveCalls, inferExpr, inferExpr, ih]
  | builtinBinary m f a b iha ihb => rw [Expr.resolveCalls, inferExpr, inferExpr, iha, ihb]
  | call m f args ih =>
    rw [Expr.resolveCalls]
    -- What is left in both cases is that the arguments may be resolved.
    split
    case isTrue hcls =>
      rw [inferExpr_construct_eq_call hcls, inferExpr, inferExpr, inferArgs_resolveCalls ih]
    case isFalse hcls => rw [inferExpr, inferExpr, inferArgs_resolveCalls ih]
  | construct m c args ih =>
    rw [Expr.resolveCalls, inferExpr, inferExpr, inferArgs_resolveCalls ih]
  | field m o x ih => rw [Expr.resolveCalls, inferExpr, inferExpr, ih]
  | method m o f args iho ih =>
    rw [Expr.resolveCalls, inferExpr, inferExpr, iho, inferArgs_resolveCalls ih]

/-! ### Statements -/

theorem checkBlock_resolveCalls_of_forall_mem {b : List (Stmt Unit)}
    (ih : ∀ x ∈ b, checkStmt cfg env (x.resolveCalls env) = checkStmt cfg env x) :
    checkBlock cfg env (resolveCallsBlock env b) = checkBlock cfg env b := by
  induction b with
  | nil => rfl
  | cons x b ihb =>
    rw [resolveCallsBlock, checkBlock, checkBlock, ih x List.mem_cons_self,
      ihb fun y hy ↦ ih y (List.mem_cons_of_mem _ hy)]

/-- Giving a value back checks alike, whether or not there is a value. -/
theorem checkReturn_resolveCalls (m : Mark Unit) (e : Option (Expr Unit)) :
    checkReturn cfg env m (e.map (Expr.resolveCalls env)) = checkReturn cfg env m e := by
  funext s
  cases e with
  | none => rfl
  | some e =>
    have hvalue : ((some e).map (Expr.resolveCalls env)).mapM (inferExpr cfg env s) =
        (some e).mapM (inferExpr cfg env s) := by
      simp only [Option.map_some, Option.mapM_some, inferExpr_resolveCalls]
    rw [checkReturn, checkReturn, hvalue]

/-- **A statement and its resolved form are the same computation.** -/
theorem checkStmt_resolveCalls (x : Stmt Unit) :
    checkStmt cfg env (x.resolveCalls env) = checkStmt cfg env x := by
  induction x with
  | assign m y e =>
    simp only [Stmt.resolveCalls, checkStmt, checkAssign, inferExpr_resolveCalls]
  | destructure m ys e => rw [Stmt.resolveCalls, checkStmt, checkStmt]
  | expr m e => simp only [Stmt.resolveCalls, checkStmt, inferExpr_resolveCalls]
  | ifElse m c a b iha ihb =>
    simp only [Stmt.resolveCalls, checkStmt, inferCondition, inferExpr_resolveCalls,
      checkBlock_resolveCalls_of_forall_mem iha, checkBlock_resolveCalls_of_forall_mem ihb]
  | ret m e => rw [Stmt.resolveCalls, checkStmt, checkStmt, checkReturn_resolveCalls]
  | loop m c b ih =>
    simp only [Stmt.resolveCalls, checkStmt, inferCondition, inferExpr_resolveCalls,
      checkBlock_resolveCalls_of_forall_mem ih]
  | pass m => rw [Stmt.resolveCalls]
  | setField m o y e =>
    have hset : checkSetField cfg env m (o.resolveCalls env) y (e.resolveCalls env) =
        checkSetField cfg env m o y e := by
      funext s
      simp only [checkSetField, inferExpr_resolveCalls]
    rw [Stmt.resolveCalls, checkStmt, checkStmt, hset]

theorem checkBlock_resolveCalls (b : List (Stmt Unit)) :
    checkBlock cfg env (resolveCallsBlock env b) = checkBlock cfg env b :=
  checkBlock_resolveCalls_of_forall_mem fun x _ ↦ checkStmt_resolveCalls x

/-! ### Definitions and programs -/

/-- The scope of a function has no calls in it, so only the body is at stake. -/
theorem checkFunDef_resolveCalls (f : FunDef Unit) :
    checkFunDef cfg env (f.resolveCalls env) = checkFunDef cfg env f := by
  -- Parameters and local variables are untouched, so the body is checked in the same scope.
  have hbody : checkBody cfg env (f.resolveCalls env).scope (f.resolveCalls env).body =
      checkBody cfg env f.scope f.body := by
    show checkBody cfg env f.scope (resolveCallsBlock env f.body) = _
    rw [checkBody, checkBody, checkBlock_resolveCalls]
  rw [checkFunDef, hbody]
  rfl

theorem mapM_checkFunDef_resolveCalls (fs : List (FunDef Unit)) :
    (fs.map (FunDef.resolveCalls env)).mapM (checkFunDef cfg env) =
      fs.mapM (checkFunDef cfg env) := by
  have hcomp : checkFunDef cfg env ∘ FunDef.resolveCalls env = checkFunDef cfg env :=
    funext checkFunDef_resolveCalls
  rw [List.mapM_map, hcomp]

theorem checkClassDef_resolveCalls (c : ClassDef Unit) :
    checkClassDef cfg env (c.resolveCalls env) = checkClassDef cfg env c := by
  rw [checkClassDef, checkClassDef, ClassDef.resolveCalls, mapM_checkFunDef_resolveCalls]

/-- **It makes no difference to a check whether the calls are resolved before it.** -/
theorem checkProgram_resolveCalls (p : Program Unit) :
    checkProgram cfg env (p.resolveCalls (env.declare p)) = checkProgram cfg env p := by
  have hclasses : (p.classes.map (ClassDef.resolveCalls (env.declare p))).mapM
      (checkClassDef cfg (env.declare p)) = p.classes.mapM (checkClassDef cfg (env.declare p)) := by
    have hcomp : checkClassDef cfg (env.declare p) ∘ ClassDef.resolveCalls (env.declare p) =
        checkClassDef cfg (env.declare p) := funext checkClassDef_resolveCalls
    rw [List.mapM_map, hcomp]
  rw [checkProgram, checkProgram, Env.declare_resolveCalls, Program.resolveCalls,
    mapM_checkFunDef_resolveCalls, hclasses]
  simp only [checkBody, checkBlock_resolveCalls]

/-- **A checked program is a fixpoint of checking.** It declares what the program declares, and
without its annotations, but with its constructions, it checks in the same environment and with the
same result. -/
theorem checkProgram_erase_fixpoint {cfg : Config} {env : Env} {p : Program Unit} {c : Checked}
    (h : checkProgram cfg env p = .ok c) :
    env.declare c.program = env.declare p ∧ checkProgram cfg env c.program.erase = .ok c := by
  have hshape : c.program.erase = p.resolveCalls (env.declare p) := erase_of_checkProgram h
  constructor
  · calc env.declare c.program
      _ = env.declare c.program.erase := (env.declare_erase c.program).symm
      _ = env.declare (p.resolveCalls (env.declare p)) := by rw [hshape]
      _ = env.declare p := env.declare_resolveCalls (env.declare p) p
  · rw [hshape, checkProgram_resolveCalls, h]

/-- The check of this chunk resolves calls in a method, in a loop and in an argument, so what is
checked the second time is another program. -/
theorem checkProgram_erase_fixpoint_constructingChunk :
    ∃ c, checkProgram .strict .builtins constructingChunk = .ok c ∧
      c.program.erase ≠ constructingChunk ∧
        Env.builtins.declare c.program = Env.builtins.declare constructingChunk ∧
          checkProgram .strict .builtins c.program.erase = .ok c := by
  have hcheck : ∃ c, checkProgram .strict .builtins constructingChunk = .ok c ∧
      c.program.erase ≠ constructingChunk := ⟨_, rfl, nofun⟩
  obtain ⟨c, hc, hne⟩ := hcheck
  exact ⟨c, hc, hne, checkProgram_erase_fixpoint hc⟩

end NominalCheck
