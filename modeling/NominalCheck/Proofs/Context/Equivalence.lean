import NominalCheck.Proofs.Context.Agreement
import NominalCheck.Proofs.Session.Splitting

/-!
# Checking does not see the order of tables

Two environments are equivalent if they declare the same things, whatever the order in which the
declarations came in: the order of globals, functions and classes, and of the members of a class. A
check cannot tell equivalent environments apart. Bodies and definitions have the same outcome in
both (`checkBody_congr`, `checkFunDef_congr`, `checkClassDef_congr`), **faults included**, and so do
whole programs, up to the order in the environment that is left.

Nothing here looks into the checker. Equivalent environments agree below every scope
(`Env.Equiv.agree`), declarations and promotions keep them equivalent, and agreeing contexts are all
that a check needs.
-/

namespace NominalCheck

/-! ### Tables -/

/-- The same writes keep two tables with the same entries alike. -/
theorem Table.SameEntries.insertMany {α : Type} {R : α → α → Prop} {t u : Table α}
    (hR : ∀ a, R a a) (h : t.SameEntries R u) (bs : List (String × α)) :
    (t.insertMany bs).SameEntries R (u.insertMany bs) := by
  intro k
  rw [get?_insertMany, get?_insertMany]
  cases bs.reverse.lookup k with
  | none => exact h k
  | some v => exact .some (hR v)

variable {cfg : Config} {env env' : Env}

/-! ### Environments -/

namespace Env.Equiv

/-- Equivalent environments answer every lookup alike, below any scope. -/
theorem agree (h : env.Equiv env') (s : Scope) : Agree env s env' s where
  kind := rfl
  resolve x := by rw [Scope.resolve?, Scope.resolve?, h.1.get?_eq]
  functions := h.2.1
  classes := h.2.2

theorem withGlobals (h : env.Equiv env') (bs : List (String × Ty)) :
    (env.withGlobals bs).Equiv (env'.withGlobals bs) :=
  ⟨h.1.insertMany (fun _ ↦ rfl) bs, h.2⟩

theorem promote (h : env.Equiv env') (s : Scope) : (env.promote s).Equiv (env'.promote s) :=
  h.withGlobals s.vars.entries

/-- A program that is declared in both environments keeps them equivalent: what it writes is read
off the program alone. -/
theorem declare {α : Type} (h : env.Equiv env') (p : Program α) :
    (env.declare p).Equiv (env'.declare p) :=
  ⟨h.1.insertMany (fun _ ↦ rfl) _, h.2.1.insertMany (fun _ ↦ rfl) _,
    h.2.2.insertMany ClassInfo.Equiv.refl _⟩

end Env.Equiv

/-! ### Bodies and definitions -/

/-- **A body has the same outcome in equivalent environments**, the scope that it leaves included.
-/
theorem checkBody_congr (h : env.Equiv env') (s : Scope) (b : List (Stmt Unit)) :
    checkBody cfg env s b = checkBody cfg env' s b := by
  obtain ⟨e, he, he'⟩ | ⟨b', bs, hb, hb'⟩ := checkBody_cases_of_agree (h.agree s) b
  · rw [he, he']
  · rw [hb, hb']

theorem checkFunDef_congr (h : env.Equiv env') (f : FunDef Unit) :
    checkFunDef cfg env f = checkFunDef cfg env' f := by
  rw [checkFunDef, checkFunDef, checkBody_congr h]

theorem checkClassDef_congr (h : env.Equiv env') (c : ClassDef Unit) :
    checkClassDef cfg env c = checkClassDef cfg env' c := by
  have hmethods : checkFunDef cfg env = checkFunDef cfg env' := funext (checkFunDef_congr h)
  rw [checkClassDef, checkClassDef, hmethods]

/-- The declarations of a program are all checked alike. -/
theorem checkDefs_congr (h : env.Equiv env') (p : Program Unit) :
    checkDefs cfg env p = checkDefs cfg env' p := by
  have hfuns : checkFunDef cfg env = checkFunDef cfg env' := funext (checkFunDef_congr h)
  have hclasses : checkClassDef cfg env = checkClassDef cfg env' := funext (checkClassDef_congr h)
  rw [checkDefs, checkDefs, hfuns, hclasses]

/-! ### Programs -/

/-- **The order of tables never leaks into a check.** Against two environments that declare the same
things, a program has the same fault, with the same similar names in the same order, or it comes out
as the same annotated program with the same type, and the environments that are left declare the
same things again. -/
theorem checkProgram_order_free (cfg : Config) {env env' : Env} (h : env.Equiv env')
    (p : Program Unit) :
    (∃ e, checkProgram cfg env p = .error e ∧ checkProgram cfg env' p = .error e) ∨
      ∃ c c', checkProgram cfg env p = .ok c ∧ checkProgram cfg env' p = .ok c' ∧
        c'.program = c.program ∧ c'.type = c.type ∧ c.env.Equiv c'.env := by
  have hdeclare : (env.declare p).Equiv (env'.declare p) := h.declare p
  rw [checkProgram_eq_bind, checkProgram_eq_bind, ← checkDefs_congr hdeclare,
    ← checkBody_congr hdeclare]
  rcases checkDefs cfg (env.declare p) p with e | defs
  · exact Or.inl ⟨e, rfl, rfl⟩
  · rcases checkBody cfg (env.declare p) .topLevel p.stmts with e | ⟨stmts, s⟩
    · exact Or.inl ⟨e, rfl, rfl⟩
    · exact Or.inr ⟨_, _, rfl, rfl, rfl, rfl, hdeclare.promote s⟩

/-- Globals with the given names, and a class `A` with fields of the given names, in these orders.
-/
def envInOrder (globals fields : List String) : Env :=
  { Env.builtins with
    globals := .ofList (globals.map fun x ↦ (x, .int))
    classes := .ofList [("A", ⟨.ofList (fields.map fun x ↦ (x, .bool)), .empty⟩)] }

/-- The text `a = A().n\nb = cont\n`, in which the last name is close to several others. -/
def nearNamesChunk : Program Unit :=
  let mark (start stop : Nat) : Mark Unit := ⟨⟨start, stop⟩, ()⟩
  { vars := []
    funs := []
    classes := []
    stmts := [.assign (mark 0 9) ⟨"a", ⟨0, 1⟩⟩
        (.field (mark 4 9) (.call (mark 4 7) ⟨"A", ⟨4, 5⟩⟩ []) ⟨"n", ⟨8, 9⟩⟩),
      .assign (mark 10 18) ⟨"b", ⟨10, 11⟩⟩ (.var (mark 14 18) "cont")]
    span := ⟨0, 19⟩ }

/-- The whole chunk has a fault, and its first statement alone does not. -/
theorem checkProgram_order_free_nearNamesChunk :
    let env := envInOrder ["count", "font", "cost", "cond"] ["n", "k"]
    let env' := envInOrder ["cond", "cost", "font", "count"] ["k", "n"]
    let err : TypeError := ⟨.undefinedName "cont" ["cond", "cost", "count"], ⟨14, 18⟩⟩
    let start : Program Unit := { nearNamesChunk with stmts := nearNamesChunk.stmts.take 1 }
    env.Equiv env' ∧ env ≠ env' ∧ checkProgram .strict env nearNamesChunk = .error err ∧
      checkProgram .strict env' nearNamesChunk = .error err ∧
      ∃ c c', checkProgram .strict env start = .ok c ∧ checkProgram .strict env' start = .ok c' ∧
        c'.program = c.program ∧ c'.type = c.type ∧ c.env.Equiv c'.env := by
  intro env env' err start
  have hequiv : env.Equiv env' := by decide
  have hfault : checkProgram .strict env nearNamesChunk = .error err := rfl
  have hstart : ∃ c, checkProgram .strict env start = .ok c := ⟨_, rfl⟩
  have hfault' : checkProgram .strict env' nearNamesChunk = .error err := by
    obtain ⟨e, he, he'⟩ | ⟨c, -, hc, -⟩ := checkProgram_order_free .strict hequiv nearNamesChunk
    · exact he'.trans (he.symm.trans hfault)
    · cases hfault.symm.trans hc
  refine ⟨hequiv, by decide, hfault, hfault', ?_⟩
  obtain ⟨e, he, -⟩ | hstarts := checkProgram_order_free .strict hequiv start
  · obtain ⟨c, hc⟩ := hstart
    cases hc.symm.trans he
  · exact hstarts

end NominalCheck
