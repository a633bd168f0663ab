import NominalCheck.Diagnostic.OfTypeError
import NominalCheck.Proofs.Fault.Located

/-!
# What the edit of a diagnostic replaces

The diagnostic of an unknown name with a single similar one proposes to write the similar name instead.
The edit covers the place of the fault, so applying it is right as far as that place is the **name
itself**. It is wherever a name is looked up because it is written there: a variable, a builtin, a
callee, a class, the target of an assignment.

The name of a class can be unknown without being written at the place of the fault. This is so for a
member of an object that is declared to be of a class that does not exist: the fault lies in the
declaration, but it is found and placed at the use of the member, and the edit would replace the whole
use by the name of a class. This is the only other case. It needs such a declaration, and it does occur.
-/

namespace NominalCheck

variable {cfg : Config} {env : Env} {s : Scope} {err : TypeError} {name : String}
  {similar : List String}

/-! ### Edits -/

/-- The edit of an unknown name covers the place of the fault, and its new text is the one similar
name. -/
theorem TypeError.edit_of_undefinedName {file : String} {suggestion : Suggestion} {edit : Edit}
    (hname : err.fault = .undefinedName name similar)
    (hsuggestion : suggestion ∈ (err.toDiagnostic file).suggestions)
    (hedit : edit ∈ suggestion.edits) :
    edit.span = ⟨err.span, file⟩ ∧ similar = [edit.newText] := by
  have hmem : suggestion ∈ err.fault.suggestions ⟨err.span, file⟩ := hsuggestion
  rw [hname] at hmem
  rcases similar with - | ⟨only, - | ⟨other, rest⟩⟩
  · cases hmem
  · obtain rfl := List.mem_singleton.1 hmem
    obtain rfl := List.mem_singleton.1 hedit
    exact ⟨rfl, rfl⟩
  · cases hmem

/-! ### Places of unknown names -/

/-- A member whose fault is an unknown name belongs to an object of a class of that name. -/
theorem MemberFault.of_undefinedName {object : Ty} {member : String} {span : Span}
    (h : MemberFault env object member span err) (hname : err.fault = .undefinedName name similar) :
    object = .cls name ∧ name ∉ env.classes ∧ err.span = span := by
  cases h with
  | primitive => cases hname
  | unknownClass hobject hc =>
    cases hname
    exact ⟨hobject, hc, rfl⟩
  | unknownMember => cases hname

/-- An expression whose fault is an unknown name is written with that name, or it uses a member of an
object of such a class. -/
theorem ExprFault.of_undefinedName {e : Expr Unit} (h : ExprFault cfg env s e err)
    (hname : err.fault = .undefinedName name similar) :
    e.ident? = some ⟨name, err.span⟩ ∨
      name ∉ env.classes ∧ ∃ o, e.access? = some (err.span, o) ∧ HasType cfg env s o (.cls name) := by
  cases h with
  | name hlookup hx =>
    cases hname
    exact Or.inl (Expr.ident?_of_lookup? hlookup)
  | field ho hx =>
    obtain ⟨rfl, hc, hspan⟩ := hx.of_undefinedName hname
    exact Or.inr ⟨hc, _, hspan ▸ rfl, ho⟩
  | method ho hf =>
    obtain ⟨rfl, hc, hspan⟩ := hf.of_undefinedName hname
    exact Or.inr ⟨hc, _, hspan ▸ rfl, ho⟩
  | text | binary | unary | signature | argument => cases hname

/-- The same for a statement at fault, seen from the block that it stands in. -/
theorem StmtFault.of_undefinedName {b : List (Stmt Unit)} {y : Stmt Unit} (hy : y ∈ blockNodes b)
    (h : StmtFault cfg env s y err) (hname : err.fault = .undefinedName name similar) :
    ⟨name, err.span⟩ ∈ blockIdents b ∨ name ∉ env.classes ∧
      ∃ o, (err.span, o) ∈ blockAccesses b ∧ HasType cfg env s o (.cls name) := by
  cases h with
  | operand he hn hfault =>
    have hnode := mem_blockExprNodes hy he hn
    rcases hfault.of_undefinedName hname with hident | ⟨hc, o, haccess, ho⟩
    · exact Or.inl (mem_blockIdents_of_ident? hnode hident)
    · exact Or.inr ⟨hc, o, mem_blockAccesses_of_expr hnode haccess, ho⟩
  | target hfun hx =>
    cases hname
    exact Or.inl (mem_blockIdents_of_mem_targets hy List.mem_cons_self)
  | member ho hx =>
    obtain ⟨rfl, hc, hspan⟩ := hx.of_undefinedName hname
    exact Or.inr ⟨hc, _, mem_blockAccesses_of_stmt hy (hspan ▸ rfl), ho⟩
  | destructuring | value | condition | branches | outside => cases hname

/-- The definition of a variable looks nothing up, so no name is unknown to it. -/
theorem VarDefFault.ne_undefinedName {v : VarDef Unit} (h : VarDefFault v err) :
    err.fault ≠ .undefinedName name similar := by
  cases h <;> exact nofun

/-! ### Programs -/

/-- **What the edit replaces.** It puts the one similar name where the unknown name is written, except
in one case: an object is declared to be of a class of that name, which does not exist, and the edit
covers a use of one of its members. -/
theorem checkProgram_edit_covers {p : Program Unit} {file : String} {suggestion : Suggestion}
    {edit : Edit} (h : checkProgram cfg env p = .error err)
    (hname : err.fault = .undefinedName name similar)
    (hsuggestion : suggestion ∈ (err.toDiagnostic file).suggestions)
    (hedit : edit ∈ suggestion.edits) :
    edit.span.file = file ∧ similar = [edit.newText] ∧
      (⟨name, edit.span.toSpan⟩ ∈ p.idents ∨
        name ∉ (env.declare p).classes ∧ .cls name ∈ declaredTypes env p ∧
          ∃ body ∈ p.bodies, ∃ s, Reaches cfg (env.declare p) (blockNodes body.2) body.1 s ∧
            ∃ o, (edit.span.toSpan, o) ∈ blockAccesses body.2 ∧
              HasType cfg (env.declare p) s o (.cls name)) := by
  obtain ⟨hspan, hsimilar⟩ := err.edit_of_undefinedName hname hsuggestion hedit
  rw [hspan]
  refine ⟨rfl, hsimilar, ?_⟩
  cases programFault_of_checkProgram h with
  | varDef _ hfault => exact absurd hname hfault.ne_undefinedName
  | @body body hbody hfault =>
    obtain ⟨y, hy, s, hs, hfault⟩ := hfault
    rcases hfault.of_undefinedName hy hname with hident | ⟨hc, o, haccess, ho⟩
    · exact Or.inl (List.mem_flatMap.2 ⟨body, hbody, hident⟩)
    · have htype := ho.mem_declaredTypes_of_notMem hbody hs hc
      exact Or.inr ⟨hc, htype, body, hbody, s, hs, o, haccess, ho⟩

/-- The text `def f(count: int) -> int:\n    if True:\n        return abs(cuont)\n`, in which a
parameter is misspelled deep inside the body. -/
def misspelledChunk : Program Unit :=
  let mark (start stop : Nat) : Mark Unit := ⟨⟨start, stop⟩, ()⟩
  let count : Binder := ⟨⟨"count", ⟨6, 11⟩⟩, .int, ⟨6, 16⟩⟩
  let call : Expr Unit := .builtinUnary (mark 54 64) ⟨"abs", ⟨54, 57⟩⟩ (.var (mark 58 63) "cuont")
  let choice : Stmt Unit :=
    .ifElse (mark 30 64) (.literal (mark 33 37) (.bool true)) [.ret (mark 47 64) (some call)] []
  { vars := []
    funs := [⟨⟨"f", ⟨4, 5⟩⟩, [count], .int, [], [choice], mark 0 64⟩]
    classes := []
    stmts := []
    span := ⟨0, 65⟩ }

/-- The edit replaces the misspelled parameter, and nothing else. -/
theorem checkProgram_edit_covers_misspelledChunk :
    ∃ err suggestion edit, checkProgram .reference .builtins misspelledChunk = .error err ∧
      err.fault = .undefinedName "cuont" ["count"] ∧
        suggestion ∈ (err.toDiagnostic "main.py").suggestions ∧ edit ∈ suggestion.edits ∧
          edit = ⟨⟨⟨58, 63⟩, "main.py"⟩, "count"⟩ ∧
            ⟨"cuont", edit.span.toSpan⟩ ∈ misspelledChunk.idents := by
  have hcheck : checkProgram .reference .builtins misspelledChunk =
      .error ⟨.undefinedName "cuont" ["count"], ⟨58, 63⟩⟩ := rfl
  have hsuggestion : _ ∈ (TypeError.toDiagnostic ⟨.undefinedName "cuont" ["count"], ⟨58, 63⟩⟩
      "main.py").suggestions := List.mem_cons_self
  refine ⟨_, _, _, hcheck, rfl, hsuggestion, List.mem_cons_self, rfl, ?_⟩
  rcases checkProgram_edit_covers hcheck rfl hsuggestion List.mem_cons_self with
    ⟨-, -, hident | ⟨-, htype, -⟩⟩
  · exact hident
  · exact absurd htype (by decide)

/-- The text `class Fob:\n    n: int = 0\nx: Foo = None\nx.n\n`, in which the class of a variable is
misspelled and a field of the variable is used. -/
def misdeclaredChunk : Program Unit :=
  let mark (start stop : Nat) : Mark Unit := ⟨⟨start, stop⟩, ()⟩
  let n : VarDef Unit := ⟨⟨⟨"n", ⟨15, 16⟩⟩, .int, ⟨15, 21⟩⟩, .int 0, ⟨24, 25⟩, mark 15 25⟩
  let x : VarDef Unit := ⟨⟨⟨"x", ⟨26, 27⟩⟩, .cls "Foo", ⟨26, 32⟩⟩, .none, ⟨35, 39⟩, mark 26 39⟩
  { vars := [x]
    funs := []
    classes := [⟨⟨"Fob", ⟨6, 9⟩⟩, [n], [], mark 0 25⟩]
    stmts := [.expr (mark 40 43) (.field (mark 40 43) (.var (mark 40 41) "x") ⟨"n", ⟨42, 43⟩⟩)]
    span := ⟨0, 44⟩ }

/-- The exception does occur: here the edit turns `x.n` into `Fob`. -/
theorem not_forall_edit_covers_ident :
    ¬ ∀ (cfg : Config) (env : Env) (p : Program Unit) (file name : String) (similar : List String)
      (err : TypeError) (suggestion : Suggestion) (edit : Edit),
      checkProgram cfg env p = .error err → err.fault = .undefinedName name similar →
        suggestion ∈ (err.toDiagnostic file).suggestions → edit ∈ suggestion.edits →
          ⟨name, edit.span.toSpan⟩ ∈ p.idents := by
  intro hall
  have hcheck : checkProgram .reference .builtins misdeclaredChunk =
      .error ⟨.undefinedName "Foo" ["Fob"], ⟨40, 43⟩⟩ := rfl
  have hident := hall .reference .builtins misdeclaredChunk "main.py" "Foo" ["Fob"] _ _ _ hcheck rfl
    List.mem_cons_self List.mem_cons_self
  exact absurd hident (by decide)

end NominalCheck
