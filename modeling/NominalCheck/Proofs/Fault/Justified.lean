import NominalCheck.Proofs.Fault.Located
import NominalCheck.Proofs.Similar

/-!
# Every fault is justified

A fault is more than a message: it claims something about the program, namely that two types do not fit,
that an operator has no result, that a name or member does not exist. `Fault.Justified` spells these
claims out, and `checkProgram_fault_justified` says that they are true of every fault that a check
reports, at whatever depth it was found.

An unknown name is unknown **somewhere**. There are four kinds of names, each with names of its own, and
the names offered instead are of the same kind. What the variables are depends on where the fault was
found, since first assignments at top level bind new ones. Nothing is bound after a fault, so the scope
in question is the one that the failing run leaves: this is `FaultScope`.
-/

namespace NominalCheck

open CheckM

/-! ### What a fault claims -/

/-- What a name that is looked up can stand for. -/
inductive NameKind where
  | var
  | function
  /-- A function or a class. -/
  | callable
  | cls

/-- All names of the kind. -/
def NameKind.names (env : Env) (s : Scope) : NameKind → List String
  | .var => s.vars.keys ++ env.globals.keys
  | .function => env.functions.keys
  | .callable => env.functions.keys ++ env.classes.keys
  | .cls => env.classes.keys

/-- The name is not among the given ones, and up to three different ones of them, close to the name, are
offered instead. -/
structure UnknownName (names : List String) (name : String) (similar : List String) : Prop where
  /-- The name is unknown indeed. -/
  unknown : name ∉ names
  /-- What is offered is known. -/
  known : ∀ c ∈ similar, c ∈ names
  /-- And it is another name, but not too different a one. -/
  near : ∀ c ∈ similar, c ≠ name ∧ editDistance name c ≤ maxDistance name
  /-- Nothing is offered twice. -/
  nodup : similar.Nodup
  /-- The list is short enough to be read. -/
  length_le : similar.length ≤ 3

/-- What the fault claims is true, in the environment and in one of the scopes. Faults that only say
which rule is broken claim nothing more. -/
def Fault.Justified (cfg : Config) (env : Env) (scopes : Scope → Prop) : Fault → Prop
  | .mismatch expected found =>
    expected ≠ found ∧ (¬ expected.Accepts found ∨
      cfg.conventionalBuiltinDirection = false ∧ ¬ found.Accepts expected)
  | .nonBoolCondition found => found ≠ .bool
  | .unsupportedOperands symbol [t] => ∀ op : UnaryOp, op.symbol = symbol → op.result? t = none
  | .unsupportedOperands symbol [l, r] =>
    ∀ op : BinaryOp, op.symbol = symbol → op.result? l r = none
  | .unsupportedOperands _ _ => False
  | .undefinedMember owner member =>
    (∃ t : Ty, t.className? = none ∧ owner = t.text) ∨
      ∃ info, env.classes.get? owner = some info ∧ (member ∉ info.fields ∨ member ∉ info.methods)
  | .undefinedName name similar =>
    ∃ s, scopes s ∧ ∃ kind : NameKind, UnknownName (kind.names env s) name similar
  | .structural _ | .signature _ | .internal _ => True

variable {cfg : Config} {env : Env} {s : Scope} {scopes : Scope → Prop} {err : TypeError}

/-- The names that are offered are right whatever list they are drawn from. -/
theorem unknownName_similarNames {name : String} {names : List String} (h : name ∉ names) :
    UnknownName names name (similarNames name names) where
  unknown := h
  known _ hc := (of_mem_similarNames hc).1
  near _ hc := (of_mem_similarNames hc).2
  nodup := nodup_similarNames
  length_le := length_similarNames_le

/-- An unknown name is justified by its kind, in the scope where it was looked up. -/
theorem Fault.justified_undefined (kind : NameKind) {name : String} (hs : scopes s)
    (h : name ∉ kind.names env s) : (undefined name (kind.names env s)).Justified cfg env scopes :=
  ⟨s, hs, kind, unknownName_similarNames h⟩

/-- A mismatch is justified by either way of not being accepted. In both of them the two types
differ, since a type accepts itself. -/
theorem Fault.justified_mismatch {expected found : Ty}
    (h : ¬ expected.Accepts found ∨ ¬ cfg.BuiltinAccepts expected found) :
    (Fault.mismatch expected found).Justified cfg env scopes := by
  constructor
  · rintro rfl
    rcases h with h | h
    · exact h (.refl _)
    · rw [Config.BuiltinAccepts, ite_self] at h
      exact h (.refl _)
  · rcases h with h | h
    · exact Or.inl h
    · rw [Config.BuiltinAccepts] at h
      split at h
      case isTrue => exact Or.inl h
      case isFalse hdirection => exact Or.inr ⟨eq_false_of_ne_true hdirection, h⟩

/-! ### The faults of single nodes -/

/-- An operator is known by its symbol, so a fault that names the symbol names the operator. -/
theorem UnaryOp.symbol_injective : Function.Injective UnaryOp.symbol := by
  intro a b h
  cases a <;> cases b <;> first | rfl | exact absurd h (by decide)

theorem BinaryOp.symbol_injective : Function.Injective BinaryOp.symbol := by
  intro a b h
  cases a <;> cases b <;> first | rfl | exact absurd h (by decide)

/-- Every expression that looks a name up does so among the names of one kind. -/
theorem Expr.exists_nameKind_of_lookup? {e : Expr Unit} {x : Ident} {names : List String}
    (h : e.lookup? env s = some (x, names)) : ∃ kind : NameKind, names = kind.names env s := by
  cases e with
  | var =>
    cases h
    exact ⟨.var, rfl⟩
  | builtinUnary =>
    rw [lookup?, Option.ite_none_left_eq_some] at h
    cases h.2
    exact ⟨.function, rfl⟩
  | builtinBinary =>
    cases h
    exact ⟨.function, rfl⟩
  | call =>
    cases h
    exact ⟨.callable, rfl⟩
  | construct =>
    cases h
    exact ⟨.cls, rfl⟩
  | literal | binary | unary | field | method => cases h

/-- The faults of members are justified by the class, or by the type that has none. -/
theorem MemberFault.justified {object : Ty} {member : String} {span : Span} (hs : scopes s)
    (h : MemberFault env object member span err) : err.fault.Justified cfg env scopes := by
  cases h with
  | primitive hobject => exact Or.inl ⟨object, hobject, rfl⟩
  | unknownClass _ hc => exact Fault.justified_undefined .cls hs hc
  | unknownMember _ hc hmember => exact Or.inr ⟨_, hc, hmember⟩

/-- **The fault of a node is justified** in the scope where the node was checked. -/
theorem ExprFault.justified {e : Expr Unit} (hs : scopes s) (h : ExprFault cfg env s e err) :
    err.fault.Justified cfg env scopes := by
  cases h with
  | text | signature => trivial
  | name hlookup hx =>
    obtain ⟨kind, rfl⟩ := Expr.exists_nameKind_of_lookup? hlookup
    exact Fault.justified_undefined kind hs hx
  | binary _ _ hop =>
    intro op hsymbol
    rwa [BinaryOp.symbol_injective hsymbol]
  | unary _ hop =>
    intro op hsymbol
    rwa [UnaryOp.symbol_injective hsymbol]
  | argument _ _ hfit => exact Fault.justified_mismatch hfit
  | field _ hmember | method _ hmember => exact hmember.justified hs

/-- So is that of a statement, through the node if one of its expressions is at fault. -/
theorem StmtFault.justified {x : Stmt Unit} (hs : scopes s) (h : StmtFault cfg env s x err) :
    err.fault.Justified cfg env scopes := by
  cases h with
  | operand _ _ hfault => exact hfault.justified hs
  | target _ hx => exact Fault.justified_undefined .var hs hx
  | value hfit => exact Fault.justified_mismatch (Or.inl hfit)
  | condition _ _ ht => exact ht
  | member _ hmember => exact hmember.justified hs
  | destructuring | branches | outside => trivial

/-- The definition of a variable looks no names up, so its faults are justified in any scopes. -/
theorem VarDefFault.justified {v : VarDef Unit} (h : VarDefFault v err) :
    err.fault.Justified cfg env scopes := by
  cases h with
  | text => trivial
  | value hfit => exact Fault.justified_mismatch (Or.inl hfit)

/-! ### Programs -/

/-- One of the bodies of the program, after those before it have checked, fails and leaves the scope `s`,
in which one of its statements is at fault. -/
def FaultScope (cfg : Config) (env : Env) (p : Program Unit) (err : TypeError) (s : Scope) : Prop :=
  ∃ before body after, p.bodies = before ++ body :: after ∧
    (∀ b ∈ before, ∃ r, checkBody cfg (env.declare p) b.1 b.2 = .ok r) ∧
    runIn body.1 (checkBlock cfg (env.declare p) body.2) = (.error err, s) ∧
    FaultAt cfg (env.declare p) body.1 (blockNodes body.2) s err

/-- **No fault is spurious.** What a fault claims is true in the environment with the declarations of
the program and, as far as variables are concerned, in the scope in which it was found. -/
theorem checkProgram_fault_justified {p : Program Unit} (h : checkProgram cfg env p = .error err) :
    err.fault.Justified cfg (env.declare p) (FaultScope cfg env p err) := by
  cases partFails_of_checkProgram h with
  | varDef _ hfail => exact (varDefFault_of_checkVarDef hfail).justified
  | body hbodies hbefore hfail =>
    obtain ⟨s, hrun⟩ := checkBody_eq_error_iff.1 hfail
    have hat := faultAt_of_checkBlock hrun
    obtain ⟨y, -, hfault⟩ := hat.fault
    exact hfault.justified ⟨_, _, _, hbodies, hbefore, hrun, hat⟩

/-- The text `if True:\n    count = 1\ntotal = cuont\n`, in which a variable that is introduced in a
nested block is misspelled after it. -/
def transposedChunk : Program Unit :=
  let mark (start stop : Nat) : Mark Unit := ⟨⟨start, stop⟩, ()⟩
  let count : Stmt Unit :=
    .assign (mark 13 22) ⟨"count", ⟨13, 18⟩⟩ (.literal (mark 21 22) (.int 1))
  { vars := []
    funs := []
    classes := []
    stmts := [.ifElse (mark 0 22) (.literal (mark 3 7) (.bool true)) [count] [],
      .assign (mark 23 36) ⟨"total", ⟨23, 28⟩⟩ (.var (mark 31 36) "cuont")]
    span := ⟨0, 37⟩ }

/-- The misspelled name is unknown among the variables, and `count` is one of these. -/
theorem checkProgram_fault_justified_transposedChunk :
    let err : TypeError := ⟨.undefinedName "cuont" ["count"], ⟨31, 36⟩⟩
    checkProgram .reference .builtins transposedChunk = .error err ∧
      ∃ s, FaultScope .reference .builtins transposedChunk err s ∧ ∃ kind : NameKind,
        UnknownName (kind.names (Env.builtins.declare transposedChunk) s) "cuont" ["count"] := by
  intro err
  have hcheck : checkProgram .reference .builtins transposedChunk = .error err := rfl
  exact ⟨hcheck, checkProgram_fault_justified hcheck⟩

end NominalCheck
