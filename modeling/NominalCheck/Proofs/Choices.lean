import NominalCheck.Proofs.Typing.Stmt

/-!
# What the choices of a configuration change

The choices enter a check at three kinds of node: at a builtin with one argument, at one with two,
and at a construction. There they decide whether the node is refused, and never what it comes out
as. So configurations only **filter** programs: whatever two of them accept, they accept with the
same result.

The argument is made once, for any way to compare outcomes that is kept when checks are made one
after the other (`Comparison`). Two configurations that compare at the three kinds of node compare
on every program (`checkProgram_compare`). It is then used for three comparisons: both outcomes are
the same if both are successes, the second is a success if the first one is, and both are equal,
**faults included**.

The two extra checks of arguments can be left out without refusing anything. The direction in which
builtins with two arguments are read is different: either direction accepts programs that the other
one refuses. It makes no difference where the parameters are integers and truth values, since such
types accept themselves and nothing else, and nothing but themselves accepts them.
-/

namespace NominalCheck

open CheckM

/-! ### Comparing outcomes -/

/-- A relation between the outcomes of two checks that holds between an outcome and itself and is
kept when checks are made one after the other. -/
structure Comparison where
  /-- The first outcome stands in the relation to the second. -/
  Holds : {α : Type} → Except TypeError α → Except TypeError α → Prop
  refl : ∀ {α : Type} (x : Except TypeError α), Holds x x
  bind : ∀ {α β : Type} {x y : Except TypeError α} {f g : α → Except TypeError β},
    Holds x y → (∀ a, Holds (f a) (g a)) → Holds (x >>= f) (y >>= g)

namespace Comparison

/-- Where both checks succeed, they give the same result. -/
def coherent : Comparison where
  Holds x y := ∀ a b, x = .ok a → y = .ok b → a = b
  refl x a b ha hb := Except.ok.inj (ha.symm.trans hb)
  bind hxy hfg a b ha hb := by
    obtain ⟨u, hu, ha⟩ := bind_eq_ok_iff.1 ha
    obtain ⟨v, hv, hb⟩ := bind_eq_ok_iff.1 hb
    obtain rfl := hxy u v hu hv
    exact hfg u a b ha hb

/-- Where the first check succeeds, the second does, with the same result. -/
def entailed : Comparison where
  Holds x y := ∀ a, x = .ok a → y = .ok a
  refl _ _ ha := ha
  bind hxy hfg a ha := by
    obtain ⟨u, hu, ha⟩ := bind_eq_ok_iff.1 ha
    exact bind_eq_ok_iff.2 ⟨u, hxy u hu, hfg u a ha⟩

/-- Both checks have the same outcome. -/
def equal : Comparison where
  Holds x y := x = y
  refl _ := rfl
  bind hxy hfg := by rw [hxy, funext hfg]

variable (R : Comparison) {α β : Type}

/-- A comparison passes to lists of checks. -/
theorem mapM {f g : α → Except TypeError β} {as : List α} (h : ∀ a ∈ as, R.Holds (f a) (g a)) :
    R.Holds (as.mapM f) (as.mapM g) := by
  induction as with
  | nil => exact R.refl _
  | cons a as ih =>
    rw [List.mapM_cons, List.mapM_cons]
    exact R.bind (h a List.mem_cons_self) fun _ ↦
      R.bind (ih fun b hb ↦ h b (List.mem_cons_of_mem _ hb)) fun _ ↦ R.refl _

/-- And to optional ones. -/
theorem optionMapM {f g : α → Except TypeError β} (h : ∀ a, R.Holds (f a) (g a)) (a : Option α) :
    R.Holds (a.mapM f) (a.mapM g) := by
  cases a with
  | none => exact R.refl _
  | some a => exact R.bind (h a) fun _ ↦ R.refl _

/-- The comparison holds between two computations, whatever scope both of them start in. -/
def HoldsIn (x y : CheckM α) : Prop := ∀ s, R.Holds (outcome s x) (outcome s y)

namespace HoldsIn

variable {R}

/-- A computation compares to itself in every scope. -/
theorem refl (x : CheckM α) : R.HoldsIn x x := fun _ ↦ R.refl _

/-- What only reads compares if it does so in every scope. -/
theorem reading {f g : Scope → Except TypeError α} (h : ∀ s, R.Holds (f s) (g s)) :
    R.HoldsIn (CheckM.reading f) (CheckM.reading g) := by
  intro s
  rw [outcome_reading, outcome_reading]
  exact R.bind (h s) fun _ ↦ R.refl _

/-- Computations in a row compare step by step. The second steps have to compare on the **same** value
only, and in the same scope. -/
theorem bind {x y : CheckM α} {f g : α → CheckM β} (hxy : R.HoldsIn x y)
    (hfg : ∀ a, R.HoldsIn (f a) (g a)) : R.HoldsIn (x >>= f) (y >>= g) := by
  intro s
  rw [outcome_bind, outcome_bind]
  exact R.bind (hxy s) fun r ↦ hfg r.1 r.2

end HoldsIn

/-- The comparison holds between two configurations at the nodes at which a choice is made. For
builtins with two arguments, only the functions of the environment have to be considered. -/
structure AtNodes (A B : Config) (env : Env) : Prop where
  /-- Whether the argument is looked at is a choice. -/
  builtinUnary : ∀ sig name span arg,
    R.Holds (builtinUnaryType A sig name span arg) (builtinUnaryType B sig name span arg)
  /-- The direction in which the arguments are read is a choice. -/
  builtinBinary : ∀ f sig, env.functions.get? f = some sig → ∀ name span a b,
    R.Holds (builtinBinaryType A sig name span a b) (builtinBinaryType B sig name span a b)
  /-- Whether the arguments are compared with the parameters is a choice. -/
  construction : ∀ info cls span args,
    R.Holds (checkConstruction A info cls span args) (checkConstruction B info cls span args)

end Comparison

/-! ### Two configurations on one program -/

section Compare

variable {R : Comparison} {A B : Config} {env : Env}

/-- Arguments compare if each of them does. -/
theorem inferArgs_compare {s : Scope} {args : List (Expr Unit)}
    (ih : ∀ e ∈ args, R.Holds (inferExpr A env s e) (inferExpr B env s e)) :
    R.Holds (inferArgs A env s args) (inferArgs B env s args) := by
  rw [inferArgs_eq_mapM, inferArgs_eq_mapM]
  exact R.mapM ih

/-- **Expressions compare** wherever the nodes do that look at the configuration. -/
theorem inferExpr_compare (h : R.AtNodes A B env) (s : Scope) (e : Expr Unit) :
    R.Holds (inferExpr A env s e) (inferExpr B env s e) := by
  induction e with
  | literal m v =>
    rw [inferExpr, inferExpr]
    exact R.refl _
  | var m x =>
    rw [inferExpr, inferExpr]
    exact R.refl _
  | binary m op l r ihl ihr =>
    rw [inferExpr, inferExpr]
    exact R.bind ihl fun _ ↦ R.bind ihr fun _ ↦ R.refl _
  | unary m op e ih =>
    rw [inferExpr, inferExpr]
    exact R.bind ih fun _ ↦ R.refl _
  | builtinUnary m f e ih =>
    rw [inferExpr, inferExpr]
    split
    · exact R.bind ih fun _ ↦ R.refl _
    · exact R.bind (R.refl _) fun sig ↦ R.bind ih fun e' ↦
        R.bind (h.builtinUnary sig f.name m.span e') fun _ ↦ R.refl _
  | builtinBinary m f a b iha ihb =>
    rw [inferExpr, inferExpr]
    -- Here the signature is known to be one of the environment, which `refl` would forget.
    cases hsig : builtinSignature env f with
    | error e => exact R.refl _
    | ok sig =>
      have hget : env.functions.get? f.name = some sig := builtinSignature_eq_ok_iff.1 hsig
      rw [ok_bind, ok_bind]
      exact R.bind iha fun a' ↦ R.bind ihb fun b' ↦
        R.bind (h.builtinBinary f.name sig hget f.name m.span a' b') fun _ ↦ R.refl _
  | call m f args ih =>
    rw [inferExpr, inferExpr]
    split
    case h_1 info _ =>
      exact R.bind (inferArgs_compare ih) fun args' ↦
        R.bind (h.construction info f.name m.span args') fun _ ↦ R.refl _
    case h_2 => exact R.bind (R.refl _) fun _ ↦ R.bind (inferArgs_compare ih) fun _ ↦ R.refl _
  | construct m c args ih =>
    rw [inferExpr, inferExpr]
    exact R.bind (R.refl _) fun info ↦ R.bind (inferArgs_compare ih) fun args' ↦
      R.bind (h.construction info c.name m.span args') fun _ ↦ R.refl _
  | field m o x ih =>
    rw [inferExpr, inferExpr]
    exact R.bind ih fun _ ↦ R.refl _
  | method m o f args iho ih =>
    rw [inferExpr, inferExpr]
    exact R.bind iho fun _ ↦ R.bind (R.refl _) fun _ ↦
      R.bind (inferArgs_compare ih) fun _ ↦ R.refl _

/-- A condition is compared as an expression. That it is a truth value is asked under every
configuration. -/
theorem inferCondition_compare (h : R.AtNodes A B env) (s : Scope) (c : Expr Unit) :
    R.Holds (inferCondition A env s c) (inferCondition B env s c) := by
  rw [inferCondition, inferCondition]
  exact R.bind (inferExpr_compare h s c) fun _ ↦ R.refl _

/-- Apart from its value, an assignment does not look at the configuration. -/
theorem checkAssign_compare (h : R.AtNodes A B env) (m : Mark Unit) (x : Ident) (e : Expr Unit) :
    R.HoldsIn (checkAssign A env m x e) (checkAssign B env m x e) := by
  have hvalue : R.HoldsIn (reading fun s ↦ inferExpr A env s e)
      (reading fun s ↦ inferExpr B env s e) := .reading fun s ↦ inferExpr_compare h s e
  refine .bind (.refl _) fun bound ↦ ?_
  cases bound with
  | some t => exact .bind hvalue fun _ ↦ .refl _
  | none => exact .bind (.refl _) fun _ ↦ .bind hvalue fun _ ↦ .refl _

theorem checkReturn_compare (h : R.AtNodes A B env) (m : Mark Unit) (e : Option (Expr Unit))
    (s : Scope) : R.Holds (checkReturn A env m e s) (checkReturn B env m e s) := by
  rw [checkReturn, checkReturn]
  split
  · exact R.refl _
  · exact R.bind (R.optionMapM (inferExpr_compare h s) e) fun _ ↦ R.refl _

theorem checkSetField_compare (h : R.AtNodes A B env) (m : Mark Unit) (o : Expr Unit) (x : Ident)
    (e : Expr Unit) (s : Scope) :
    R.Holds (checkSetField A env m o x e s) (checkSetField B env m o x e s) := by
  rw [checkSetField, checkSetField]
  exact R.bind (inferExpr_compare h s o) fun _ ↦ R.bind (R.refl _) fun _ ↦
    R.bind (inferExpr_compare h s e) fun _ ↦ R.refl _

/-- Blocks compare if their statements do. -/
theorem checkBlock_compare_of_forall_mem {b : List (Stmt Unit)}
    (ih : ∀ x ∈ b, R.HoldsIn (checkStmt A env x) (checkStmt B env x)) :
    R.HoldsIn (checkBlock A env b) (checkBlock B env b) := by
  induction b with
  | nil =>
    rw [checkBlock, checkBlock]
    exact .refl _
  | cons x b ihb =>
    rw [checkBlock, checkBlock]
    exact .bind (ih x List.mem_cons_self) fun _ ↦
      .bind (ihb fun y hy ↦ ih y (List.mem_cons_of_mem _ hy)) fun _ ↦ .refl _

/-- **Statements compare**, since a configuration is looked at in expressions only. -/
theorem checkStmt_compare (h : R.AtNodes A B env) (x : Stmt Unit) :
    R.HoldsIn (checkStmt A env x) (checkStmt B env x) := by
  induction x with
  | assign m y e =>
    rw [checkStmt, checkStmt]
    exact checkAssign_compare h m y e
  | destructure m ys e =>
    rw [checkStmt, checkStmt]
    exact .refl _
  | expr m e =>
    rw [checkStmt, checkStmt]
    exact .bind (.reading fun s ↦ inferExpr_compare h s e) fun _ ↦ .refl _
  | ifElse m c a b iha ihb =>
    rw [checkStmt, checkStmt]
    exact .bind (.reading fun s ↦ inferCondition_compare h s c) fun _ ↦
      .bind (checkBlock_compare_of_forall_mem iha) fun _ ↦
        .bind (checkBlock_compare_of_forall_mem ihb) fun _ ↦ .refl _
  | ret m e =>
    rw [checkStmt, checkStmt]
    exact .reading (checkReturn_compare h m e)
  | loop m c b ih =>
    rw [checkStmt, checkStmt]
    exact .bind (.reading fun s ↦ inferCondition_compare h s c) fun _ ↦
      .bind (checkBlock_compare_of_forall_mem ih) fun _ ↦ .refl _
  | pass m =>
    rw [checkStmt, checkStmt]
    exact .refl _
  | setField m o y e =>
    rw [checkStmt, checkStmt]
    exact .reading (checkSetField_compare h m o y e)

/-- A body compares as the block that it is. -/
theorem checkBody_compare (h : R.AtNodes A B env) (s : Scope) (b : List (Stmt Unit)) :
    R.Holds (checkBody A env s b) (checkBody B env s b) := by
  rw [checkBody_eq_outcome, checkBody_eq_outcome]
  exact checkBlock_compare_of_forall_mem (fun x _ ↦ checkStmt_compare h x) s

/-- The scope of a function does not depend on the configuration. -/
theorem checkFunDef_compare (h : R.AtNodes A B env) (f : FunDef Unit) :
    R.Holds (checkFunDef A env f) (checkFunDef B env f) := by
  rw [checkFunDef, checkFunDef]
  exact R.bind (R.refl _) fun _ ↦ R.bind (checkBody_compare h f.scope f.body) fun _ ↦ R.refl _

theorem checkClassDef_compare (h : R.AtNodes A B env) (c : ClassDef Unit) :
    R.Holds (checkClassDef A env c) (checkClassDef B env c) := by
  rw [checkClassDef, checkClassDef]
  exact R.bind (R.refl _) fun _ ↦ R.bind (R.mapM fun f _ ↦ checkFunDef_compare h f) fun _ ↦ R.refl _

/-- **Configurations that compare at the nodes compare on programs.** -/
theorem checkProgram_compare {p : Program Unit} (h : R.AtNodes A B (env.declare p)) :
    R.Holds (checkProgram A env p) (checkProgram B env p) := by
  rw [checkProgram, checkProgram]
  exact R.bind (R.refl _) fun _ ↦ R.bind (R.mapM fun f _ ↦ checkFunDef_compare h f) fun _ ↦
    R.bind (R.mapM fun c _ ↦ checkClassDef_compare h c) fun _ ↦
      R.bind (checkBody_compare h .topLevel p.stmts) fun _ ↦ R.refl _

end Compare

/-! ### Leaving checks out -/

namespace Config

/-- Every extra check of arguments that the first configuration makes is made by the second, and
both read the builtins with two arguments in the same direction. -/
structure Relaxes (A B : Config) : Prop where
  strictBuiltinArguments : A.strictBuiltinArguments → B.strictBuiltinArguments
  checkConstructorArguments : A.checkConstructorArguments → B.checkConstructorArguments
  direction : A.conventionalBuiltinDirection = B.conventionalBuiltinDirection

/-- The configuration that reads the builtins with two arguments in the other direction. -/
def flipDirection (cfg : Config) : Config :=
  { cfg with conventionalBuiltinDirection := !cfg.conventionalBuiltinDirection }

end Config

variable {A B : Config} {env : Env}

/-- With fewer checks asked for, what could be constructed still can. -/
theorem Constructible.of_relaxes (h : A.Relaxes B) {info : ClassInfo} {ts : List Ty}
    (hnew : Constructible B info ts) : Constructible A info ts := by
  cases hnew with
  | bare hinit => exact .bare hinit
  | init hinit hlen hts => exact .init hinit hlen fun hA ↦ hts (h.checkConstructorArguments hA)

/-- Whatever the choices, a node has the one type that its signature gives. -/
theorem coherent_atNodes (A B : Config) (env : Env) : Comparison.coherent.AtNodes A B env where
  builtinUnary sig name span arg t t' ht ht' := by
    obtain ⟨p, rfl, -⟩ := builtinUnaryType_eq_ok_iff.1 ht
    obtain ⟨p', hsig, -⟩ := builtinUnaryType_eq_ok_iff.1 ht'
    exact congrArg Signature.result hsig
  builtinBinary f sig _ name span a b t t' ht ht' := by
    obtain ⟨p, q, rfl, -⟩ := builtinBinaryType_eq_ok_iff.1 ht
    obtain ⟨p', q', hsig, -⟩ := builtinBinaryType_eq_ok_iff.1 ht'
    exact congrArg Signature.result hsig
  construction _ _ _ _ _ _ _ _ := rfl

/-- A configuration that asks for less accepts whatever the stricter one does. -/
theorem entailed_atNodes (h : A.Relaxes B) : Comparison.entailed.AtNodes B A env where
  builtinUnary sig name span arg t ht := by
    obtain ⟨p, hsig, hfit⟩ := builtinUnaryType_eq_ok_iff.1 ht
    exact builtinUnaryType_eq_ok_iff.2 ⟨p, hsig, fun hA ↦ hfit (h.strictBuiltinArguments hA)⟩
  builtinBinary f sig _ name span a b t ht := by
    obtain ⟨p, q, hsig, hfit⟩ := builtinBinaryType_eq_ok_iff.1 ht
    rw [TakesPair, ← h.direction] at hfit
    exact builtinBinaryType_eq_ok_iff.2 ⟨p, q, hsig, hfit⟩
  construction info cls span args u hu :=
    checkConstruction_eq_ok_iff.2 (Constructible.of_relaxes h (checkConstruction_eq_ok_iff.1 hu))

/-! ### The direction of builtins -/

/-- Every function with two parameters takes integers and truth values only. -/
def Env.PrimitivePairs (env : Env) : Prop :=
  ∀ f sig, env.functions.get? f = some sig → sig.params.length = 2 →
    ∀ t ∈ sig.params, t = .int ∨ t = .bool

/-- A parameter that is an integer or a truth value takes its own type, in either direction. -/
theorem Config.builtinAccepts_iff_eq (cfg : Config) {param arg : Ty}
    (h : param = .int ∨ param = .bool) : cfg.BuiltinAccepts param arg ↔ param = arg := by
  have hclass : ¬ param.isClass := by rcases h with rfl | rfl <;> decide
  have hnone : param ≠ .none := by rcases h with rfl | rfl <;> decide
  rw [BuiltinAccepts]
  split
  · exact or_iff_left fun hcoerced ↦ hclass hcoerced.2
  · exact (or_iff_left fun hcoerced ↦ hnone hcoerced.1).trans eq_comm

/-- With a class among the types, either direction takes an argument that the other one refuses. -/
example :
    Config.strict.BuiltinAccepts (.cls "A") .none ∧
      ¬ Config.reference.BuiltinAccepts (.cls "A") .none ∧
      Config.reference.BuiltinAccepts .none (.cls "A") ∧
      ¬ Config.strict.BuiltinAccepts .none (.cls "A") := by
  decide

/-- Two tests of arguments that agree on the parameters give the same outcome, fault included. -/
theorem checkArgs_congr {accepts accepts' : Ty → Ty → Prop} [DecidableRel accepts]
    [DecidableRel accepts'] {params : List Ty}
    (h : ∀ param ∈ params, ∀ arg, accepts param arg ↔ accepts' param arg) (args : List (Expr Ty)) :
    checkArgs accepts params args = checkArgs accepts' params args := by
  induction params generalizing args with
  | nil => cases args <;> rfl
  | cons param params ih =>
    cases args with
    | nil => rfl
    | cons arg args =>
      rw [checkArgs, checkArgs, ih fun p hp ↦ h p (List.mem_cons_of_mem _ hp)]
      exact if_congr (h param List.mem_cons_self arg.ann) rfl rfl

/-- Where two integers or truth values are asked for, the direction of reading does not matter: such
types are accepted by themselves alone, both ways. -/
theorem builtinBinaryType_flipDirection (cfg : Config) {sig : Signature}
    (h : sig.params.length = 2 → ∀ t ∈ sig.params, t = .int ∨ t = .bool) (name : String)
    (span : Span) (a b : Expr Ty) :
    builtinBinaryType cfg.flipDirection sig name span a b =
      builtinBinaryType cfg sig name span a b := by
  obtain ⟨params, r⟩ := sig
  match params with
  | [] => rfl
  | [_] => rfl
  | _ :: _ :: _ :: _ => rfl
  | [p, q] =>
    have hargs : checkArgs cfg.flipDirection.BuiltinAccepts [p, q] [a, b] =
        checkArgs cfg.BuiltinAccepts [p, q] [a, b] := by
      refine checkArgs_congr (fun param hparam arg ↦ ?_) [a, b]
      rw [Config.builtinAccepts_iff_eq _ (h rfl param hparam),
        Config.builtinAccepts_iff_eq _ (h rfl param hparam)]
    simp only [builtinBinaryType, hargs]

/-- So the direction changes nothing at all if all builtins with two arguments are of this kind. -/
theorem equal_atNodes (cfg : Config) (h : env.PrimitivePairs) :
    Comparison.equal.AtNodes cfg.flipDirection cfg env where
  builtinUnary _ _ _ _ := rfl
  builtinBinary f sig hsig := builtinBinaryType_flipDirection cfg (h f sig hsig)
  construction _ _ _ _ := rfl

/-! ### Programs -/

/-- **Configurations only filter.** Two configurations that accept a program accept it with the same
result. A configuration that leaves extra checks of arguments out accepts whatever one accepts that
makes them. Where the functions with two parameters take integers and truth values only, the
direction in which they are read changes neither the result nor the fault, and so the reference
configuration accepts whatever the strict one does. -/
theorem checkProgram_config_filters (env : Env) (p : Program Unit) :
    (∀ A B c c', checkProgram A env p = .ok c → checkProgram B env p = .ok c' → c = c') ∧
    (∀ A B : Config, A.Relaxes B → ∀ c, checkProgram B env p = .ok c →
      checkProgram A env p = .ok c) ∧
    ((env.declare p).PrimitivePairs →
      (∀ cfg : Config, checkProgram cfg.flipDirection env p = checkProgram cfg env p) ∧
        ∀ c, checkProgram .strict env p = .ok c → checkProgram .reference env p = .ok c) := by
  have hrelaxed : ∀ A B : Config, A.Relaxes B → ∀ c, checkProgram B env p = .ok c →
      checkProgram A env p = .ok c := fun A B hAB ↦ checkProgram_compare (entailed_atNodes hAB)
  refine ⟨fun A B ↦ checkProgram_compare (coherent_atNodes A B _), hrelaxed, fun hpairs ↦ ?_⟩
  have hflip : ∀ cfg : Config, checkProgram cfg.flipDirection env p = checkProgram cfg env p :=
    fun cfg ↦ checkProgram_compare (equal_atNodes cfg hpairs)
  refine ⟨hflip, fun c hc ↦ ?_⟩
  have hrelaxes : Config.reference.Relaxes Config.strict.flipDirection := ⟨nofun, nofun, rfl⟩
  rw [← hflip] at hc
  exact hrelaxed _ _ hrelaxes c hc

/-- A chunk with a construction that has an argument, a builtin with one argument and a function of
a number and a truth value that is called like a builtin. -/
def pairingChunk : Program Unit :=
  let m : Mark Unit := ⟨⟨0, 1⟩, ()⟩
  let ident (name : String) : Ident := ⟨name, m.span⟩
  let binder (name : String) (type : Ty) : Binder := ⟨ident name, type, m.span⟩
  let number : Expr Unit := .literal m (.int 1)
  { vars := []
    funs := [⟨ident "scale", [binder "n" .int, binder "up" .bool], .int, [],
      [.ret m (some (.var m "n"))], m⟩]
    classes := [⟨ident "Box", [],
      [⟨ident "__init__", [binder "self" (.cls "Box"), binder "n" .int], .none, [], [.pass m], m⟩],
      m⟩]
    stmts := [.assign m (ident "b") (.call m (ident "Box") [.builtinUnary m (ident "abs") number]),
      .expr m (.builtinBinary m (ident "scale") number (.literal m (.bool true)))]
    span := m.span }

/-- The chunk is accepted as strictly as can be, so it is under two laxer configurations, and the
direction of reading changes nothing. -/
theorem checkProgram_config_filters_pairingChunk :
    (Env.builtins.declare pairingChunk).PrimitivePairs ∧
      ∃ c, checkProgram .strict .builtins pairingChunk = .ok c ∧
        checkProgram .reference .builtins pairingChunk = .ok c ∧
        checkProgram ⟨false, true, true⟩ .builtins pairingChunk = .ok c ∧
        ∀ cfg : Config, checkProgram cfg.flipDirection .builtins pairingChunk =
          checkProgram cfg .builtins pairingChunk := by
  have hpairs : (Env.builtins.declare pairingChunk).PrimitivePairs := by
    have hentries : ∀ b ∈ (Env.builtins.declare pairingChunk).functions.entries,
        b.2.params.length = 2 → ∀ t ∈ b.2.params, t = .int ∨ t = .bool := by decide
    exact fun f sig hsig ↦ hentries (f, sig) (Table.get?_eq_some_iff.1 hsig)
  have hcheck : ∃ c, checkProgram .strict .builtins pairingChunk = .ok c := ⟨_, rfl⟩
  obtain ⟨c, hc⟩ := hcheck
  obtain ⟨-, hrelaxed, hdirection⟩ := checkProgram_config_filters .builtins pairingChunk
  have hrelaxes : (⟨false, true, true⟩ : Config).Relaxes .strict := ⟨nofun, fun _ ↦ rfl, rfl⟩
  obtain ⟨hflip, hreference⟩ := hdirection hpairs
  exact ⟨hpairs, c, hc, hreference c hc, hrelaxed _ _ hrelaxes c hc, hflip⟩

end NominalCheck
