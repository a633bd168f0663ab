import NominalCheck.Proofs.Tree.Names
import NominalCheck.Proofs.Typing.Adequacy

/-!
# What the fault of a single node can be

A check fails at one node: all parts that were looked at before have their types, and the rule of the
node does not apply. `ExprFault` and `StmtFault` list the ways in which this can happen, with the
condition that is broken, the fault that is reported and the place that it is reported **at**. The place
is mostly that of the node itself. Two kinds of fault are placed more narrowly: an unknown name at its
identifier, and an argument that does not fit at the argument.

There is one exception. The class that an object is of may be unknown as well, and its name is not
written anywhere near: `MemberFault` places it at the use of the member, like every fault of a member.

The relations do not say in which order the conditions are tried. Of a signature that does not fit a
call they record only that this is the fault, not which condition on the arguments is broken.
-/

namespace NominalCheck

/-! ### The relations -/

/-- The name that an expression looks up, and the names that it could be. Printing looks nothing up,
and a callee may be a function or a class. -/
def Expr.lookup? (env : Env) (s : Scope) : Expr Unit → Option (Ident × List String)
  | .var m x => some (⟨x, m.span⟩, s.visibleNames env)
  | .builtinUnary _ f _ => if f.name = Env.printName then none else some (f, env.functions.keys)
  | .builtinBinary _ f _ _ => some (f, env.functions.keys)
  | .call _ f _ => some (f, env.functions.keys ++ env.classes.keys)
  | .construct _ c _ => some (c, env.classes.keys)
  | .literal _ _ | .binary _ _ _ _ | .unary _ _ _ | .field _ _ _ | .method _ _ _ _ => none

/-- The faults of using a member of an object of the given type. -/
inductive MemberFault (env : Env) (object : Ty) (member : String) (span : Span) : TypeError → Prop
  | primitive (hobject : object.className? = none) :
      MemberFault env object member span ⟨.undefinedMember object.text member, span⟩
  | unknownClass {c : String} (hobject : object = .cls c) (hc : c ∉ env.classes) :
      MemberFault env object member span ⟨undefined c env.classes.keys, span⟩
  | unknownMember {c : String} {info : ClassInfo} (hobject : object = .cls c)
      (hc : env.classes.get? c = some info) (hmember : member ∉ info.fields ∨ member ∉ info.methods) :
      MemberFault env object member span ⟨.undefinedMember c member, span⟩

/-- The faults of a call with checked arguments. -/
inductive CallFault (cfg : Config) (span : Span) (args : List (Expr Ty)) : TypeError → Prop
  | signature (fault : SignatureFault) : CallFault cfg span args ⟨.signature fault, span⟩
  | argument {param : Ty} {arg : Expr Ty} (harg : arg ∈ args)
      (hfit : ¬ param.Accepts arg.ann ∨ ¬ cfg.BuiltinAccepts param arg.ann) :
      CallFault cfg span args ⟨.mismatch param arg.ann, arg.span⟩

/-- The faults of an expression whose parts have types as far as they were looked at. -/
inductive ExprFault (cfg : Config) (env : Env) (s : Scope) : Expr Unit → TypeError → Prop
  | text {m : Mark Unit} {text : String} :
      ExprFault cfg env s (.literal m (.text text)) ⟨.internal .textLiteral, m.span⟩
  | name {e : Expr Unit} {x : Ident} {names : List String} (hlookup : e.lookup? env s = some (x, names))
      (hx : x.name ∉ names) : ExprFault cfg env s e ⟨undefined x.name names, x.span⟩
  | binary {m : Mark Unit} {op : BinaryOp} {l r : Expr Unit} {tl tr : Ty}
      (hl : HasType cfg env s l tl) (hr : HasType cfg env s r tr) (hop : op.result? tl tr = none) :
      ExprFault cfg env s (.binary m op l r) ⟨.unsupportedOperands op.symbol [tl, tr], m.span⟩
  | unary {m : Mark Unit} {op : UnaryOp} {a : Expr Unit} {t : Ty} (ha : HasType cfg env s a t)
      (hop : op.result? t = none) :
      ExprFault cfg env s (.unary m op a) ⟨.unsupportedOperands op.symbol [t], m.span⟩
  | signature {e : Expr Unit} (fault : SignatureFault) :
      ExprFault cfg env s e ⟨.signature fault, e.span⟩
  | argument {e arg : Expr Unit} {param t : Ty} (harg : arg ∈ e.children)
      (htype : HasType cfg env s arg t)
      (hfit : ¬ param.Accepts t ∨ ¬ cfg.BuiltinAccepts param t) :
      ExprFault cfg env s e ⟨.mismatch param t, arg.span⟩
  | field {m : Mark Unit} {o : Expr Unit} {x : Ident} {t : Ty} {err : TypeError}
      (ho : HasType cfg env s o t) (hx : MemberFault env t x.name m.span err) :
      ExprFault cfg env s (.field m o x) err
  | method {m : Mark Unit} {o : Expr Unit} {f : Ident} {args : List (Expr Unit)} {t : Ty}
      {err : TypeError} (ho : HasType cfg env s o t) (hf : MemberFault env t f.name m.span err) :
      ExprFault cfg env s (.method m o f args) err

/-- The faults of a statement. One of its expressions may have a node at fault, or they all have types
as far as they were looked at. -/
inductive StmtFault (cfg : Config) (env : Env) (s : Scope) : Stmt Unit → TypeError → Prop
  | operand {x : Stmt Unit} {e n : Expr Unit} {err : TypeError} (he : e ∈ x.operands)
      (hn : n ∈ e.nodes) (hfault : ExprFault cfg env s n err) : StmtFault cfg env s x err
  | target {m : Mark Unit} {x : Ident} {e : Expr Unit} (hfun : s.kind ≠ .topLevel)
      (hx : x.name ∉ s.visibleNames env) :
      StmtFault cfg env s (.assign m x e) ⟨undefined x.name (s.visibleNames env), x.span⟩
  | destructuring {m : Mark Unit} {xs : List Ident} {e : Expr Unit} :
      StmtFault cfg env s (.destructure m xs e) ⟨.internal .destructuring, m.span⟩
  | value {x : Stmt Unit} {expected found : Ty} (hfit : ¬ expected.Accepts found) :
      StmtFault cfg env s x ⟨.mismatch expected found, x.span⟩
  | condition {x : Stmt Unit} {c : Expr Unit} {t : Ty} (hc : c ∈ x.operands)
      (htype : HasType cfg env s c t) (ht : t ≠ .bool) :
      StmtFault cfg env s x ⟨.nonBoolCondition t, c.span⟩
  | branches {m : Mark Unit} {c : Expr Unit} {a b : List (Stmt Unit)} {ta tb : Ty} (h : ta ≠ tb) :
      StmtFault cfg env s (.ifElse m c a b) ⟨.structural (.branchesDiffer ta tb), m.span⟩
  | outside {m : Mark Unit} {e : Option (Expr Unit)} (htop : s.kind = .topLevel) :
      StmtFault cfg env s (.ret m e) ⟨.structural .returnOutsideFunction, m.span⟩
  | member {m : Mark Unit} {o e : Expr Unit} {x : Ident} {t : Ty} {err : TypeError}
      (ho : HasType cfg env s o t) (hx : MemberFault env t x.name m.span err) :
      StmtFault cfg env s (.setField m o x e) err

/-- The faults of the definition of a variable. -/
inductive VarDefFault (v : VarDef Unit) : TypeError → Prop
  | text {text : String} (hv : v.value = .text text) :
      VarDefFault v ⟨.internal .textLiteral, v.valueSpan⟩
  | value {t : Ty} (hfit : ¬ v.binder.type.Accepts t) :
      VarDefFault v ⟨.mismatch v.binder.type t, v.mark.span⟩

variable {cfg : Config} {env : Env} {s : Scope} {span : Span} {err : TypeError}

/-- Where `fault` is given if a condition fails, and else nothing is wrong, the check fails exactly if
the condition does. -/
theorem ite_error_eq_error_iff {ε α : Type} {c : Prop} [Decidable c] {fault e : ε} {a : α} :
    (if c then Except.ok a else .error fault) = .error e ↔ ¬ c ∧ e = fault := by
  by_cases hc : c
  · rw [if_pos hc]
    exact ⟨nofun, fun h ↦ absurd hc h.1⟩
  · rw [if_neg hc, and_iff_right hc, Except.error.injEq, eq_comm]

/-! ### Names -/

/-- What is looked up is what the expression is written with. -/
theorem Expr.ident?_of_lookup? {e : Expr Unit} {x : Ident} {names : List String}
    (h : e.lookup? env s = some (x, names)) : e.ident? = some x := by
  cases e with
  | builtinUnary m f a =>
    rw [lookup?, Option.ite_none_left_eq_some] at h
    cases h.2
    rfl
  | var | builtinBinary | call | construct =>
    cases h
    rfl
  | literal | binary | unary | field | method => cases h

/-- An unknown variable is reported with names that are visible where it is used. -/
theorem variableType_eq_error_iff {name : String} :
    variableType env s span name = .error err ↔
      name ∉ s.visibleNames env ∧ err = ⟨undefined name (s.visibleNames env), span⟩ := by
  rw [variableType, ← Scope.resolve?_eq_none_iff]
  cases s.resolve? env name <;> simp [eq_comm]

/-- For a builtin only functions are offered. -/
theorem builtinSignature_eq_error_iff {f : Ident} :
    builtinSignature env f = .error err ↔
      f.name ∉ env.functions ∧ err = ⟨undefined f.name env.functions.keys, f.span⟩ := by
  rw [builtinSignature, ← Table.get?_eq_none_iff]
  cases env.functions.get? f.name <;> simp [eq_comm]

/-- For a callee both functions and classes are offered, though it is looked up among the functions. -/
theorem calleeSignature_eq_error_iff {f : Ident} :
    calleeSignature env f = .error err ↔ f.name ∉ env.functions ∧
      err = ⟨undefined f.name (env.functions.keys ++ env.classes.keys), f.span⟩ := by
  rw [calleeSignature, ← Table.get?_eq_none_iff]
  cases env.functions.get? f.name <;> simp [eq_comm]

/-- For a construction only classes are offered. -/
theorem constructedClass_eq_error_iff {c : Ident} :
    constructedClass env c = .error err ↔
      c.name ∉ env.classes ∧ err = ⟨undefined c.name env.classes.keys, c.span⟩ := by
  rw [constructedClass, ← Table.get?_eq_none_iff]
  cases env.classes.get? c.name <;> simp [eq_comm]

/-! ### Literals, operators and values -/

/-- Texts are the only literals without a type. -/
theorem literalType_eq_error_iff {v : Literal} :
    literalType span v = .error err ↔ ∃ text, v = .text text ∧ err = ⟨.internal .textLiteral, span⟩ := by
  cases v <;> simp [literalType, eq_comm]

/-- The fault of an operation names the operator and both types, in their order. -/
theorem binaryType_eq_error_iff {op : BinaryOp} {l r : Ty} :
    binaryType op span l r = .error err ↔
      op.result? l r = none ∧ err = ⟨.unsupportedOperands op.symbol [l, r], span⟩ := by
  rw [binaryType]
  cases op.result? l r <;> simp [eq_comm]

theorem unaryType_eq_error_iff {op : UnaryOp} {t : Ty} :
    unaryType op span t = .error err ↔
      op.result? t = none ∧ err = ⟨.unsupportedOperands op.symbol [t], span⟩ := by
  rw [unaryType]
  cases op.result? t <;> simp [eq_comm]

theorem checkFits_eq_error_iff {expected found : Ty} :
    checkFits expected found span = .error err ↔
      ¬ expected.Accepts found ∧ err = ⟨.mismatch expected found, span⟩ := by
  rw [checkFits, ite_error_eq_error_iff]

/-! ### Calls -/

/-- The arguments are compared one by one, so a fault is that of one of them. -/
theorem exists_of_checkArgs_eq_error {accepts : Ty → Ty → Prop} [DecidableRel accepts]
    {params : List Ty} {args : List (Expr Ty)} (h : checkArgs accepts params args = .error err) :
    ∃ param, ∃ arg ∈ args, ¬ accepts param arg.ann ∧ err = ⟨.mismatch param arg.ann, arg.span⟩ := by
  induction params generalizing args with
  | nil => cases h
  | cons param params ih =>
    cases args with
    | nil => cases h
    | cons arg args =>
      rw [checkArgs] at h
      split at h
      case isTrue =>
        obtain ⟨param', arg', hmem, hfit⟩ := ih h
        exact ⟨param', arg', List.mem_cons_of_mem _ hmem, hfit⟩
      case isFalse hfit =>
        cases h
        exact ⟨param, arg, List.mem_cons_self, hfit, rfl⟩

/-- Arguments fail by one of them that is not accepted. -/
theorem callFault_of_checkArgs {params : List Ty} {args : List (Expr Ty)}
    (h : checkArgs Ty.Accepts params args = .error err) : CallFault cfg span args err := by
  obtain ⟨param, arg, harg, hfit, rfl⟩ := exists_of_checkArgs_eq_error h
  exact .argument harg (Or.inl hfit)

/-- A builtin with one argument fails by its arity or, if the configuration asks for it, by the
argument. -/
theorem callFault_of_builtinUnaryType {sig : Signature} {name : String} {arg : Expr Ty}
    (h : builtinUnaryType cfg sig name span arg = .error err) : CallFault cfg span [arg] err := by
  rw [builtinUnaryType] at h
  split at h
  · split at h
    · rcases bind_eq_error_iff.1 h with hargs | ⟨_, -, hpure⟩
      · exact callFault_of_checkArgs hargs
      · exact absurd hpure pure_ne_error
    · exact absurd h pure_ne_error
  · cases h
    exact .signature _

/-- A builtin with two arguments fails by its arity or by an argument. The argument is not accepted
in the direction that the configuration reads, which may be the unusual one. -/
theorem callFault_of_builtinBinaryType {sig : Signature} {name : String} {a b : Expr Ty}
    (h : builtinBinaryType cfg sig name span a b = .error err) : CallFault cfg span [a, b] err := by
  rw [builtinBinaryType] at h
  split at h
  · rcases bind_eq_error_iff.1 h with hargs | ⟨_, -, hpure⟩
    · obtain ⟨param, arg, harg, hfit, rfl⟩ := exists_of_checkArgs_eq_error hargs
      exact .argument harg (Or.inr hfit)
    · exact absurd hpure pure_ne_error
  · cases h
    exact .signature _

/-- A plain call fails as a whole: the fault lists all types, and no argument is singled out. -/
theorem callFault_of_callType {sig : Signature} {callee : String} {args : List (Expr Ty)}
    (h : callType sig callee span args = .error err) : CallFault cfg span args err := by
  simp only [callType] at h
  split at h
  · cases h
  · cases h
    exact .signature _

/-- A construction fails by its constructor, by the number of arguments, or by one of them. -/
theorem callFault_of_checkConstruction {info : ClassInfo} {cls : String} {args : List (Expr Ty)}
    (h : checkConstruction cfg info cls span args = .error err) : CallFault cfg span args err := by
  rw [checkConstruction] at h
  split at h
  · split at h
    · cases h
    · cases h
      exact .signature _
  · simp only at h
    split at h
    · cases h
      exact .signature _
    · split at h
      · cases h
        exact .signature _
      · split at h
        · exact callFault_of_checkArgs h
        · cases h

/-- A method fails by the number of its arguments or by one of them, and the **receiver** may be the
one. -/
theorem callFault_of_methodType {sig : Signature} {cls name : String} {receiver : Expr Ty}
    {args : List (Expr Ty)} (h : methodType sig cls name span receiver args = .error err) :
    CallFault cfg span (receiver :: args) err := by
  rw [methodType] at h
  split at h
  · rcases bind_eq_error_iff.1 h with hargs | ⟨_, -, hpure⟩
    · exact callFault_of_checkArgs hargs
    · exact absurd hpure pure_ne_error
  · cases h
    exact .signature _

/-! ### Members -/

/-- There is no member without a class, and a class that is named by a type need not exist. -/
theorem memberFault_of_memberOwner {object : Ty} {member : String}
    (h : memberOwner env object member span = .error err) : MemberFault env object member span err := by
  rw [memberOwner] at h
  cases object with
  | cls c =>
    cases hc : env.classes.get? c with
    | some info => simp [Ty.className?, hc] at h
    | none =>
      simp only [Ty.className?, hc] at h
      cases h
      exact .unknownClass rfl (Table.get?_eq_none_iff.1 hc)
  | int | bool | none =>
    cases h
    exact .primitive rfl

/-- A field fails with its owner, or because the class has no such field. -/
theorem memberFault_of_fieldType {object : Ty} {name : String}
    (h : fieldType env object name span = .error err) : MemberFault env object name span err := by
  rcases bind_eq_error_iff.1 h with howner | ⟨⟨c, info⟩, howner, hfield⟩
  · exact memberFault_of_memberOwner howner
  · obtain ⟨hobject, hc⟩ := memberOwner_eq_ok_iff.1 howner
    cases hx : info.fields.get? name with
    | some t => simp [hx] at hfield
    | none =>
      simp only [hx] at hfield
      cases hfield
      exact .unknownMember hobject hc (Or.inl (Table.get?_eq_none_iff.1 hx))

/-- And a method likewise. -/
theorem memberFault_of_methodSignature {object : Ty} {name : String}
    (h : methodSignature env object name span = .error err) :
    MemberFault env object name span err := by
  rcases bind_eq_error_iff.1 h with howner | ⟨⟨c, info⟩, howner, hmethod⟩
  · exact memberFault_of_memberOwner howner
  · obtain ⟨hobject, hc⟩ := memberOwner_eq_ok_iff.1 howner
    cases hf : info.methods.get? name with
    | some sig => simp [hf] at hmethod
    | none =>
      simp only [hf] at hmethod
      cases hmethod
      exact .unknownMember hobject hc (Or.inr (Table.get?_eq_none_iff.1 hf))

/-! ### Conditions and choices -/

/-- The blocks of a choice fail together, by their two types. -/
theorem choiceType_eq_error_iff {a b : Ty} :
    choiceType span a b = .error err ↔ a ≠ b ∧ err = ⟨.structural (.branchesDiffer a b), span⟩ := by
  rw [choiceType, Ty.join?]
  by_cases h : a = b <;> simp [h, eq_comm]

/-- A condition fails as an expression, or by not being a truth value. The second fault is placed at
the condition and not at the statement. -/
theorem inferCondition_eq_error_iff {c : Expr Unit} :
    inferCondition cfg env s c = .error err ↔ inferExpr cfg env s c = .error err ∨
      ∃ c', inferExpr cfg env s c = .ok c' ∧ c'.ann ≠ .bool ∧
        err = ⟨.nonBoolCondition c'.ann, c'.span⟩ := by
  rw [inferCondition, bind_eq_error_iff]
  exact or_congr_right (exists_congr fun c' ↦ and_congr_right fun _ ↦ ite_error_eq_error_iff)

end NominalCheck
