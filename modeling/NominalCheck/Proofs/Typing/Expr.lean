import NominalCheck.Proofs.Tree.Induction
import NominalCheck.Proofs.Typing.Node

/-!
# Expressions that check

For every form of expression, what a successful check of it consists of: which parts have been
checked, what holds of their types, and which annotated tree comes out. Each statement is an
equivalence and has the checked parts in it, so that facts about annotated trees follow by induction
over the expression without opening the checker again.
-/

namespace NominalCheck

variable {cfg : Config} {env : Env} {scope : Scope} {m : Mark Unit} {e' : Expr Ty}

/-! ### Leaves and operators -/

/-- A literal is annotated with its type. -/
theorem inferExpr_literal_eq_ok_iff {v : Literal} :
    inferExpr cfg env scope (.literal m v) = .ok e' ↔
      ∃ t, v.HasType t ∧ e' = .literal (m.annotate t) v := by
  simp only [inferExpr, bind_eq_ok_iff, pure_eq_ok_iff, literalType_eq_ok_iff]

/-- A variable is annotated with what it resolves to. -/
theorem inferExpr_var_eq_ok_iff {x : String} :
    inferExpr cfg env scope (.var m x) = .ok e' ↔
      ∃ t, scope.resolve? env x = some t ∧ e' = .var (m.annotate t) x := by
  simp only [inferExpr, bind_eq_ok_iff, pure_eq_ok_iff, variableType_eq_ok_iff]

/-- Both operands of an operation check, and the operator has a result on their types. -/
theorem inferExpr_binary_eq_ok_iff {op : BinaryOp} {l r : Expr Unit} :
    inferExpr cfg env scope (.binary m op l r) = .ok e' ↔
      ∃ l', inferExpr cfg env scope l = .ok l' ∧ ∃ r', inferExpr cfg env scope r = .ok r' ∧
        ∃ t, op.HasResult l'.ann r'.ann t ∧ e' = .binary (m.annotate t) op l' r' := by
  simp only [inferExpr, bind_eq_ok_iff, pure_eq_ok_iff, binaryType_eq_ok_iff]

theorem inferExpr_unary_eq_ok_iff {op : UnaryOp} {e : Expr Unit} :
    inferExpr cfg env scope (.unary m op e) = .ok e' ↔
      ∃ a, inferExpr cfg env scope e = .ok a ∧
        ∃ t, op.HasResult a.ann t ∧ e' = .unary (m.annotate t) op a := by
  simp only [inferExpr, bind_eq_ok_iff, pure_eq_ok_iff, unaryType_eq_ok_iff]

/-! ### Builtins -/

/-- The type of a builtin applied to one argument: that of the argument for `print`, and for any
other name the declared result. -/
def BuiltinUnaryTyped (cfg : Config) (env : Env) (f : Ident) (arg t : Ty) : Prop :=
  (f.name = Env.printName ∧ t = arg) ∨
    (f.name ≠ Env.printName ∧ ∃ p, env.functions.get? f.name = some ⟨[p], t⟩ ∧
      (cfg.strictBuiltinArguments → p.Accepts arg))

/-- `print` is looked up nowhere and has the type of its argument. Every other builtin with one
argument is a declared function with one parameter. -/
theorem inferExpr_builtinUnary_eq_ok_iff {f : Ident} {e : Expr Unit} :
    inferExpr cfg env scope (.builtinUnary m f e) = .ok e' ↔
      ∃ a, inferExpr cfg env scope e = .ok a ∧
        ∃ t, BuiltinUnaryTyped cfg env f a.ann t ∧ e' = .builtinUnary (m.annotate t) f a := by
  rw [inferExpr]
  by_cases hf : f.name = Env.printName
  · rw [if_pos hf]
    simp only [bind_eq_ok_iff, pure_eq_ok_iff]
    constructor
    · rintro ⟨a, ha, rfl⟩
      exact ⟨a, ha, a.ann, Or.inl ⟨hf, rfl⟩, rfl⟩
    · rintro ⟨a, ha, t, ⟨-, rfl⟩ | ⟨hne, -⟩, rfl⟩
      · exact ⟨a, ha, rfl⟩
      · exact absurd hf hne
  · rw [if_neg hf]
    simp only [bind_eq_ok_iff, pure_eq_ok_iff, builtinSignature_eq_ok_iff,
      builtinUnaryType_eq_ok_iff]
    constructor
    · rintro ⟨sig, hsig, a, ha, t, ⟨p, rfl, hfit⟩, rfl⟩
      exact ⟨a, ha, t, Or.inr ⟨hf, p, hsig, hfit⟩, rfl⟩
    · rintro ⟨a, ha, t, ⟨heq, -⟩ | ⟨-, p, hsig, hfit⟩, rfl⟩
      · exact absurd heq hf
      · exact ⟨⟨[p], t⟩, hsig, a, ha, t, ⟨p, rfl, hfit⟩, rfl⟩

/-- A builtin with two arguments is a function with two parameters, whatever its name. -/
theorem inferExpr_builtinBinary_eq_ok_iff {f : Ident} {a b : Expr Unit} :
    inferExpr cfg env scope (.builtinBinary m f a b) = .ok e' ↔
      ∃ a', inferExpr cfg env scope a = .ok a' ∧ ∃ b', inferExpr cfg env scope b = .ok b' ∧
        ∃ p q t, env.functions.get? f.name = some ⟨[p, q], t⟩ ∧
          TakesPair cfg p q a'.ann b'.ann ∧ e' = .builtinBinary (m.annotate t) f a' b' := by
  simp only [inferExpr, bind_eq_ok_iff, pure_eq_ok_iff, builtinSignature_eq_ok_iff,
    builtinBinaryType_eq_ok_iff]
  constructor
  · rintro ⟨sig, hsig, a', ha, b', hb, t, ⟨p, q, rfl, hfit⟩, rfl⟩
    exact ⟨a', ha, b', hb, p, q, t, hsig, hfit, rfl⟩
  · rintro ⟨a', ha, b', hb, p, q, t, hsig, hfit, rfl⟩
    exact ⟨⟨[p, q], t⟩, hsig, a', ha, b', hb, t, ⟨p, q, rfl, hfit⟩, rfl⟩

/-! ### Calls -/

/-- Arguments are checked one by one, all in the same scope. -/
theorem inferArgs_eq_mapM (args : List (Expr Unit)) :
    inferArgs cfg env scope args = args.mapM (inferExpr cfg env scope) := by
  induction args with
  | nil => rfl
  | cons e es ih => rw [inferArgs, List.mapM_cons, ih]

/-- Arguments check one by one. -/
theorem inferArgs_eq_ok_iff {args : List (Expr Unit)} {args' : List (Expr Ty)} :
    inferArgs cfg env scope args = .ok args' ↔
      List.Forall₂ (fun e e' ↦ inferExpr cfg env scope e = .ok e') args args' := by
  rw [inferArgs_eq_mapM, mapM_eq_ok_iff]

/-- A call of a class comes out as a construction. -/
theorem inferExpr_call_of_mem_eq_ok_iff {f : Ident} {args : List (Expr Unit)} {info : ClassInfo}
    (hcls : env.classes.get? f.name = some info) :
    inferExpr cfg env scope (.call m f args) = .ok e' ↔
      ∃ args', inferArgs cfg env scope args = .ok args' ∧
        Constructible cfg info (args'.map Expr.ann) ∧
          e' = .construct (m.annotate (.cls f.name)) f args' := by
  simp only [inferExpr, hcls, bind_eq_ok_iff, pure_eq_ok_iff, checkConstruction_eq_ok_iff]
  simp

/-- A call of anything but a class is the call of a function. -/
theorem inferExpr_call_of_notMem_eq_ok_iff {f : Ident} {args : List (Expr Unit)}
    (hcls : f.name ∉ env.classes) :
    inferExpr cfg env scope (.call m f args) = .ok e' ↔
      ∃ args', inferArgs cfg env scope args = .ok args' ∧
        ∃ t, env.functions.get? f.name = some ⟨args'.map Expr.ann, t⟩ ∧
          e' = .call (m.annotate t) f args' := by
  simp only [inferExpr, Table.get?_eq_none_iff.2 hcls, bind_eq_ok_iff, pure_eq_ok_iff,
    calleeSignature_eq_ok_iff, callType_eq_ok_iff]
  constructor
  · rintro ⟨sig, hsig, args', hargs, t, rfl, rfl⟩
    exact ⟨args', hargs, t, hsig, rfl⟩
  · rintro ⟨args', hargs, t, hsig, rfl⟩
    exact ⟨⟨args'.map Expr.ann, t⟩, hsig, args', hargs, t, rfl, rfl⟩

/-- A construction has the type of its class, which is known even where the class has no
constructor. -/
theorem inferExpr_construct_eq_ok_iff {c : Ident} {args : List (Expr Unit)} :
    inferExpr cfg env scope (.construct m c args) = .ok e' ↔
      ∃ info, env.classes.get? c.name = some info ∧
        ∃ args', inferArgs cfg env scope args = .ok args' ∧
          Constructible cfg info (args'.map Expr.ann) ∧
            e' = .construct (m.annotate (.cls c.name)) c args' := by
  simp only [inferExpr, bind_eq_ok_iff, pure_eq_ok_iff, constructedClass_eq_ok_iff,
    checkConstruction_eq_ok_iff]
  simp

/-! ### Members -/

/-- A field is looked up in the class of its object. -/
theorem inferExpr_field_eq_ok_iff {o : Expr Unit} {x : Ident} :
    inferExpr cfg env scope (.field m o x) = .ok e' ↔
      ∃ o', inferExpr cfg env scope o = .ok o' ∧ ∃ c info t, o'.ann = .cls c ∧
        env.classes.get? c = some info ∧ info.fields.get? x.name = some t ∧
          e' = .field (m.annotate t) o' x := by
  simp only [inferExpr, bind_eq_ok_iff, pure_eq_ok_iff, fieldType_eq_ok_iff]
  constructor
  · rintro ⟨o', ho, t, ⟨c, info, hc, hinfo, hx⟩, rfl⟩
    exact ⟨o', ho, c, info, t, hc, hinfo, hx, rfl⟩
  · rintro ⟨o', ho, c, info, t, hc, hinfo, hx, rfl⟩
    exact ⟨o', ho, t, ⟨c, info, hc, hinfo, hx⟩, rfl⟩

/-- The class of the receiver takes part in the check of the arguments, as the type of the first of
them. -/
theorem inferExpr_method_eq_ok_iff {o : Expr Unit} {f : Ident} {args : List (Expr Unit)} :
    inferExpr cfg env scope (.method m o f args) = .ok e' ↔
      ∃ o', inferExpr cfg env scope o = .ok o' ∧
        ∃ args', inferArgs cfg env scope args = .ok args' ∧ ∃ c info params t, o'.ann = .cls c ∧
          env.classes.get? c = some info ∧ info.methods.get? f.name = some ⟨params, t⟩ ∧
            List.Forall₂ Ty.Accepts params (.cls c :: args'.map Expr.ann) ∧
              e' = .method (m.annotate t) o' f args' := by
  simp only [inferExpr, bind_eq_ok_iff, pure_eq_ok_iff, Prod.exists, methodSignature_eq_ok_iff,
    methodType_eq_ok_iff]
  constructor
  · rintro ⟨o', ho, c, sig, ⟨hc, info, hinfo, hf⟩, args', hargs, t, ⟨rfl, hfit⟩, rfl⟩
    exact ⟨o', ho, args', hargs, c, info, sig.params, sig.result, hc, hinfo, hf, hc ▸ hfit, rfl⟩
  · rintro ⟨o', ho, args', hargs, c, info, params, t, hc, hinfo, hf, hfit, rfl⟩
    exact ⟨o', ho, c, ⟨params, t⟩, ⟨hc, info, hinfo, hf⟩, args', hargs, t, ⟨rfl, hc ▸ hfit⟩, rfl⟩

end NominalCheck
