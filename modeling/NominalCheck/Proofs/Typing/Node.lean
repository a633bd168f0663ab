import NominalCheck.Proofs.Outcome
import NominalCheck.Proofs.Typing.Rules

/-!
# When the rule of a node succeeds

The checker decides at every node by a function that gives a type or a fault. For each of these
functions there is one statement here: it gives a type **exactly** when the relation of the typing
rules holds. Faults do not occur in them, so nothing below depends on which fault is reported or on
the order in which conditions are tried.

These are the only statements that open the node functions for their successes. What is said about
whole trees is said through them.
-/

namespace NominalCheck

variable {cfg : Config} {env : Env} {scope : Scope} {span : Span} {t : Ty}

/-- Where `fault` is given if a condition fails, the check succeeds exactly if it holds. -/
theorem ite_error_eq_ok_iff {ε α : Type} {c : Prop} [Decidable c] {fault : ε}
    {x : Except ε α} {a : α} : (if c then x else .error fault) = .ok a ↔ c ∧ x = .ok a := by
  by_cases hc : c
  · rw [if_pos hc, and_iff_right hc]
  · rw [if_neg hc]
    exact ⟨nofun, fun h ↦ absurd h.1 hc⟩

/-! ### Names -/

/-- A variable has the type that it resolves to. -/
theorem variableType_eq_ok_iff {name : String} :
    variableType env scope span name = .ok t ↔ scope.resolve? env name = some t := by
  rw [variableType]
  cases scope.resolve? env name <;> simp

/-- A builtin is any declared function; being called as a builtin adds nothing. -/
theorem builtinSignature_eq_ok_iff {f : Ident} {sig : Signature} :
    builtinSignature env f = .ok sig ↔ env.functions.get? f.name = some sig := by
  rw [builtinSignature]
  cases env.functions.get? f.name <;> simp

/-- A callee is found among the functions as well. The classes matter only for its fault. -/
theorem calleeSignature_eq_ok_iff {f : Ident} {sig : Signature} :
    calleeSignature env f = .ok sig ↔ env.functions.get? f.name = some sig := by
  rw [calleeSignature]
  cases env.functions.get? f.name <;> simp

/-- What is constructed is a declared class. -/
theorem constructedClass_eq_ok_iff {c : Ident} {info : ClassInfo} :
    constructedClass env c = .ok info ↔ env.classes.get? c.name = some info := by
  rw [constructedClass]
  cases env.classes.get? c.name <;> simp

/-! ### Literals and operators -/

/-- Every literal but a text has a type. -/
theorem literalType_eq_ok_iff {v : Literal} : literalType span v = .ok t ↔ v.HasType t := by
  constructor
  · intro h
    cases v with
    | bool b => cases h; exact .bool b
    | int i => cases h; exact .int i
    | none => cases h; exact .none
    | text s => cases h
  · rintro (b | i | -) <;> rfl

/-- The table of the binary operators is the relation of the rules, family by family. -/
theorem BinaryOp.result?_eq_some_iff {op : BinaryOp} {l r : Ty} :
    op.result? l r = some t ↔ op.HasResult l r t := by
  constructor
  · intro h
    cases op <;> simp only [BinaryOp.result?, Option.ite_none_right_eq_some,
      Option.some.injEq] at h
    case add | sub | mul | floorDiv | mod =>
      obtain ⟨⟨rfl, rfl⟩, rfl⟩ := h
      exact .arithmetic (by decide)
    case eq | ne =>
      obtain ⟨rfl, rfl⟩ := h
      exact .equality (by decide)
    case le | ge | lt | gt =>
      obtain ⟨⟨rfl, rfl⟩, rfl⟩ := h
      exact .ordering (by decide)
    case and | or =>
      obtain ⟨⟨rfl, rfl⟩, rfl⟩ := h
      exact .connective (by decide)
    case is =>
      obtain ⟨⟨hl, hr⟩, rfl⟩ := h
      exact .identity hl hr
  · intro h
    cases h with
    | arithmetic hop => revert op; decide
    | equality hop => rcases List.mem_pair.1 hop with rfl | rfl <;> exact if_pos rfl
    | ordering hop => revert op; decide
    | connective hop => revert op; decide
    | identity hl hr => exact if_pos ⟨hl, hr⟩

/-- And so is that of the unary ones. -/
theorem UnaryOp.result?_eq_some_iff {op : UnaryOp} {e : Ty} :
    op.result? e = some t ↔ op.HasResult e t := by
  constructor
  · intro h
    cases op <;> cases e <;> cases h
    · exact .neg
    · exact .not
  · rintro (_ | _) <;> rfl

theorem binaryType_eq_ok_iff {op : BinaryOp} {l r : Ty} :
    binaryType op span l r = .ok t ↔ op.HasResult l r t := by
  rw [← BinaryOp.result?_eq_some_iff, binaryType]
  cases op.result? l r <;> simp

theorem unaryType_eq_ok_iff {op : UnaryOp} {e : Ty} :
    unaryType op span e = .ok t ↔ op.HasResult e t := by
  rw [← UnaryOp.result?_eq_some_iff, unaryType]
  cases op.result? e <;> simp

/-! ### Arguments -/

/-- A value fits exactly if its type is accepted. -/
theorem checkFits_eq_ok_iff {expected found : Ty} {u : Unit} :
    checkFits expected found span = .ok u ↔ expected.Accepts found := by
  rw [checkFits, ite_error_eq_ok_iff, and_iff_left rfl]

/-- Parameters and arguments of the same number are compared pairwise, and all pairs count. -/
theorem checkArgs_eq_ok_iff {accepts : Ty → Ty → Prop} [DecidableRel accepts] {params : List Ty}
    {args : List (Expr Ty)} {u : Unit} (hlen : args.length = params.length) :
    checkArgs accepts params args = .ok u ↔ List.Forall₂ accepts params (args.map Expr.ann) := by
  induction params generalizing args with
  | nil =>
    obtain rfl := List.length_eq_zero_iff.1 hlen
    exact ⟨fun _ ↦ .nil, fun _ ↦ rfl⟩
  | cons param params ih =>
    obtain ⟨arg, args, rfl⟩ := List.exists_cons_of_length_eq_add_one hlen
    rw [checkArgs, ite_error_eq_ok_iff, ih (Nat.succ.inj hlen), List.map_cons,
      List.forall₂_cons]

/-- A builtin with one argument needs one parameter, and looks at the argument only if the
configuration is strict about builtins. -/
theorem builtinUnaryType_eq_ok_iff {sig : Signature} {name : String} {arg : Expr Ty} :
    builtinUnaryType cfg sig name span arg = .ok t ↔
      ∃ p, sig = ⟨[p], t⟩ ∧ (cfg.strictBuiltinArguments → p.Accepts arg.ann) := by
  obtain ⟨params, r⟩ := sig
  match params with
  | [] => exact ⟨nofun, nofun⟩
  | _ :: _ :: _ => exact ⟨nofun, nofun⟩
  | [p] =>
    have hargs : ∀ u, checkArgs Ty.Accepts [p] [arg] = .ok u ↔ p.Accepts arg.ann := fun u ↦ by
      rw [checkArgs_eq_ok_iff rfl]
      simp
    simp only [builtinUnaryType]
    split
    case isTrue hstrict =>
      simp only [bind_eq_ok_iff, pure_eq_ok_iff, hargs, hstrict]
      simp [and_comm, eq_comm (a := t)]
    case isFalse hstrict => simp [hstrict, eq_comm (a := t)]

/-- A builtin with two arguments looks at both, in the direction that the configuration reads them. -/
theorem builtinBinaryType_eq_ok_iff {sig : Signature} {name : String} {a b : Expr Ty} :
    builtinBinaryType cfg sig name span a b = .ok t ↔
      ∃ p q, sig = ⟨[p, q], t⟩ ∧ TakesPair cfg p q a.ann b.ann := by
  obtain ⟨params, r⟩ := sig
  match params with
  | [] => exact ⟨nofun, nofun⟩
  | [_] => exact ⟨nofun, nofun⟩
  | _ :: _ :: _ :: _ => exact ⟨nofun, nofun⟩
  | [p, q] =>
    have hargs : ∀ u, checkArgs cfg.BuiltinAccepts [p, q] [a, b] = .ok u ↔
        TakesPair cfg p q a.ann b.ann := fun u ↦ by
      rw [checkArgs_eq_ok_iff rfl, TakesPair]
      split <;> simp_all [Config.BuiltinAccepts]
    simp only [builtinBinaryType, bind_eq_ok_iff, pure_eq_ok_iff, hargs]
    simp [and_comm, eq_comm (a := t)]

/-- The arguments of a call have the **very types** of the parameters; here nothing is accepted for
something else. -/
theorem callType_eq_ok_iff {sig : Signature} {callee : String} {args : List (Expr Ty)} :
    callType sig callee span args = .ok t ↔ sig = ⟨args.map Expr.ann, t⟩ := by
  obtain ⟨params, r⟩ := sig
  rw [callType, ite_error_eq_ok_iff, Except.ok.injEq, Signature.mk.injEq, eq_comm (a := params)]

/-- A class without a constructor takes no arguments. -/
theorem constructible_of_none_iff {info : ClassInfo} {ts : List Ty}
    (hinit : info.constructor? = none) : Constructible cfg info ts ↔ ts = [] := by
  constructor
  · intro h
    cases h with
    | bare => rfl
    | init h => cases hinit.symm.trans h
  · rintro rfl
    exact .bare hinit

/-- A constructor gives nothing back, and its first parameter is the object under construction.
Whether the other parameters take the arguments is left to the configuration. -/
theorem constructible_of_some_iff {info : ClassInfo} {init : Signature} {ts : List Ty}
    (hinit : info.constructor? = some init) :
    Constructible cfg info ts ↔ init.result = .none ∧ ts.length = init.params.length - 1 ∧
      (cfg.checkConstructorArguments → List.Forall₂ Ty.Accepts init.params.tail ts) := by
  constructor
  · intro h
    cases h with
    | bare h => cases hinit.symm.trans h
    | init h hlen hts =>
      obtain rfl := Option.some.inj (hinit.symm.trans h)
      exact ⟨rfl, hlen, hts⟩
  · obtain ⟨params, r⟩ := init
    rintro ⟨rfl, hlen, hts⟩
    exact .init hinit hlen hts

/-- **An object is constructed exactly as the rules allow**, whether or not its class has a
constructor. -/
theorem checkConstruction_eq_ok_iff {info : ClassInfo} {cls : String} {args : List (Expr Ty)}
    {u : Unit} : checkConstruction cfg info cls span args = .ok u ↔
      Constructible cfg info (args.map Expr.ann) := by
  rw [checkConstruction]
  cases hinit : info.constructor? with
  | none =>
    rw [constructible_of_none_iff hinit]
    simp
  | some init =>
    rw [constructible_of_some_iff hinit, List.length_map]
    by_cases hres : init.result = .none
    case neg => simp [hres]
    by_cases hlen : args.length = init.params.length - 1
    case neg => simp [hres, hlen]
    by_cases hargs : cfg.checkConstructorArguments
    case neg => simp [hres, hlen, hargs]
    have hlen' : args.length = init.params.tail.length := hlen.trans List.length_tail.symm
    simp [hres, hlen, hargs, checkArgs_eq_ok_iff hlen']

/-! ### Members -/

/-- Members are those of declared classes. -/
theorem memberOwner_eq_ok_iff {object : Ty} {member cls : String} {info : ClassInfo} :
    memberOwner env object member span = .ok (cls, info) ↔
      object = .cls cls ∧ env.classes.get? cls = some info := by
  cases object with
  | int => exact ⟨nofun, nofun⟩
  | bool => exact ⟨nofun, nofun⟩
  | none => exact ⟨nofun, nofun⟩
  | cls name =>
    simp only [memberOwner, Ty.className?, Ty.cls.injEq]
    constructor
    · intro howner
      cases hinfo : env.classes.get? name with
      | none => rw [hinfo] at howner; cases howner
      | some info' =>
        rw [hinfo] at howner
        cases howner
        exact ⟨rfl, hinfo⟩
    · rintro ⟨rfl, hinfo⟩
      rw [hinfo]

/-- A field has the type that its class declares it with. -/
theorem fieldType_eq_ok_iff {object : Ty} {name : String} :
    fieldType env object name span = .ok t ↔ ∃ c info, object = .cls c ∧
      env.classes.get? c = some info ∧ info.fields.get? name = some t := by
  rw [fieldType, bind_eq_ok_iff]
  constructor
  · rintro ⟨⟨c, info⟩, howner, hfield⟩
    obtain ⟨rfl, hinfo⟩ := memberOwner_eq_ok_iff.1 howner
    refine ⟨c, info, rfl, hinfo, ?_⟩
    cases hx : info.fields.get? name <;> simp_all
  · rintro ⟨c, info, rfl, hinfo, hx⟩
    exact ⟨(c, info), memberOwner_eq_ok_iff.2 ⟨rfl, hinfo⟩, by simp [hx]⟩

/-- A method is found in the class of its object, and the class is told along with it. -/
theorem methodSignature_eq_ok_iff {object : Ty} {name c : String} {sig : Signature} :
    methodSignature env object name span = .ok (c, sig) ↔ object = .cls c ∧
      ∃ info, env.classes.get? c = some info ∧ info.methods.get? name = some sig := by
  rw [methodSignature, bind_eq_ok_iff]
  constructor
  · rintro ⟨⟨c', info⟩, howner, hmethod⟩
    obtain ⟨rfl, hinfo⟩ := memberOwner_eq_ok_iff.1 howner
    cases hx : info.methods.get? name <;> simp_all
  · rintro ⟨rfl, info, hinfo, hx⟩
    exact ⟨(c, info), memberOwner_eq_ok_iff.2 ⟨rfl, hinfo⟩, by simp [hx]⟩

/-- The receiver is the first argument of a method, and unlike in a plain call each argument need
only be accepted. -/
theorem methodType_eq_ok_iff {sig : Signature} {cls name : String} {receiver : Expr Ty}
    {args : List (Expr Ty)} : methodType sig cls name span receiver args = .ok t ↔
      sig.result = t ∧
        List.Forall₂ Ty.Accepts sig.params (receiver.ann :: args.map Expr.ann) := by
  rw [methodType, ← List.length_cons (a := receiver), ite_error_eq_ok_iff, ← List.map_cons]
  constructor
  · rintro ⟨hlen, h⟩
    obtain ⟨u, hargs, hres⟩ := bind_eq_ok_iff.1 h
    exact ⟨(pure_eq_ok_iff.1 hres).symm, (checkArgs_eq_ok_iff hlen).1 hargs⟩
  · rintro ⟨rfl, hfit⟩
    have hlen : (receiver :: args).length = sig.params.length := by
      rw [hfit.length_eq, List.length_map]
    exact ⟨hlen, bind_eq_ok_iff.2 ⟨(), (checkArgs_eq_ok_iff hlen).2 hfit, rfl⟩⟩

/-! ### Statements -/

/-- A choice has a type if both of its blocks have that one. -/
theorem choiceType_eq_ok_iff {a b : Ty} : choiceType span a b = .ok t ↔ a = t ∧ b = t := by
  rw [← Ty.join?_eq_some_iff, choiceType]
  cases a.join? b <;> simp

/-- A condition is an expression that is a truth value. -/
theorem inferCondition_eq_ok_iff {cond : Expr Unit} {cond' : Expr Ty} :
    inferCondition cfg env scope cond = .ok cond' ↔
      inferExpr cfg env scope cond = .ok cond' ∧ cond'.ann = .bool := by
  rw [inferCondition, bind_eq_ok_iff]
  simp only [ite_error_eq_ok_iff, pure_eq_ok_iff]
  constructor
  · rintro ⟨_, hcond, hbool, rfl⟩
    exact ⟨hcond, hbool⟩
  · rintro ⟨hcond, hbool⟩
    exact ⟨cond', hcond, hbool, rfl⟩

end NominalCheck
