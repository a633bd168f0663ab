import NominalCheck.Proofs.Session.History
import NominalCheck.Proofs.Session.Replay

/-!
# Committed definitions stay valid

The functions and classes of a chunk are checked in the environment of that moment. A session goes on,
and the environment grows: later chunks declare variables, functions and classes, and their statements
introduce more variables. If later chunks declare only what is **new** at their time, the definitions
could as well be checked now: they come out as the same annotated trees.

New means more than that nothing is declared again. A class must not take the name of a function
either, because it would hide the function in calls. With that, each environment covers the one before
(`covers_of_isNewTo`), a whole run leads from an environment to one that covers it (`covers_after`),
and definitions that check in an environment check in every one that covers it.
-/

namespace NominalCheck

open CheckM

variable {cfg : Config} {env : Env} {p : Program Unit} {c : Checked}

/-! ### One chunk -/

/-- No variable, function or class that the program declares is there already, and none of its classes
has the name of a function that is there. -/
structure Program.IsNewTo (p : Program Unit) (env : Env) : Prop where
  vars : ∀ x ∈ p.varNames, x ∉ env.globals
  funs : ∀ f ∈ p.funNames, f ∉ env.functions
  classes : ∀ c ∈ p.classNames, c ∉ env.classes
  /-- A class would hide the function from its callers. -/
  callable : ∀ c ∈ p.classNames, c ∉ env.functions

instance (p : Program Unit) (env : Env) : Decidable (p.IsNewTo env) :=
  decidable_of_iff
    ((∀ x ∈ p.varNames, x ∉ env.globals) ∧ (∀ f ∈ p.funNames, f ∉ env.functions) ∧
      (∀ c ∈ p.classNames, c ∉ env.classes) ∧ ∀ c ∈ p.classNames, c ∉ env.functions)
    ⟨fun ⟨hx, hf, hc, hcall⟩ ↦ ⟨hx, hf, hc, hcall⟩, fun h ↦ ⟨h.vars, h.funs, h.classes, h.callable⟩⟩

/-- What a table keeps is found in it, as long as only new names are written. -/
theorem Table.Keeps.get?_eq_some {α : Type} {t u : Table α} {written : List String}
    (h : t.Keeps u written) (hnew : ∀ k ∈ written, k ∉ t) {k : String} {v : α}
    (hk : t.get? k = some v) : u.get? k = some v := by
  have hmem : k ∈ t := Table.mem_of_get?_eq_some hk
  rw [h.value k hmem fun hwritten ↦ hnew k hwritten hmem, hk]

theorem Covers.trans {env' env'' : Env} {s s' s'' : Scope} (h : Covers env s env' s')
    (h' : Covers env' s' env'' s'') : Covers env s env'' s'' where
  kind := h.kind.trans h'.kind
  resolve x t hx := h'.resolve x t (h.resolve x t hx)
  functions f sig hf := h'.functions f sig (h.functions f sig hf)
  classes c info hc := h'.classes c info (h.classes c info hc)
  callable f hf hcls := by
    obtain ⟨sig, hsig⟩ := Option.isSome_iff_exists.1 (Table.isSome_get?_iff.2 hf)
    exact h'.callable f (Table.mem_of_get?_eq_some (h.functions f sig hsig)) (h.callable f hf hcls)

/-- The environment that a program leaves covers the one that its definitions are checked in. -/
theorem covers_of_checkProgram (h : checkProgram cfg env p = .ok c) :
    Covers (env.declare p) .topLevel c.env .topLevel := by
  obtain ⟨vars, -, funs, -, classes, -, stmts, s, hstmts, rfl⟩ := checkProgram_eq_ok_iff.1 h
  obtain ⟨bs, hbs, rfl⟩ := (checkBlock_grows p.stmts).exists_introduces hstmts
  exact (covers_promote rfl).of_introduces hbs

/-- **A chunk that declares only what is new** leaves an environment that covers the one before. -/
theorem covers_of_isNewTo (h : checkProgram cfg env p = .ok c) (hnew : p.IsNewTo env) :
    Covers env .topLevel c.env .topLevel := by
  have hkeeps : env.Keeps (env.declare p) [p] := env.keeps_declare p
  refine Covers.trans ?_ (covers_of_checkProgram h)
  refine ⟨rfl, fun x t hx ↦ ?_, fun f sig hf ↦ ?_, fun c info hc ↦ ?_, fun f hf hcls ↦ ?_⟩
  · exact hkeeps.globals.get?_eq_some (by simpa using hnew.vars) hx
  · exact hkeeps.functions.get?_eq_some (by simpa using hnew.funs) hf
  · exact hkeeps.classes.get?_eq_some (by simpa using hnew.classes) hc
  · rw [Env.classes_declare, Table.mem_insertMany, List.map_map]
    rintro (hmem | hmem)
    · exact hcls hmem
    · exact hnew.callable f hmem hf

/-! ### A run of chunks -/

/-- The commands to check the given chunks. -/
def checkAll (log : List (Program Unit × Checked)) : List Command := log.map fun l ↦ .check l.1

namespace Session

/-- Checked one after the other, all chunks of the log are committed, with the results of the log. -/
def Commits (s : Session) (log : List (Program Unit × Checked)) : Prop :=
  s.events (checkAll log) = log.map fun l ↦ .committed l.1 l.2

variable {s : Session} {log log' : List (Program Unit × Checked)}

theorem config_after (s : Session) (cs : List Command) : (s.after cs).config = s.config := by
  induction cs generalizing s with
  | nil => rfl
  | cons c cs ih =>
    rw [after_cons, ih]
    obtain ⟨_, _, -, -, h⟩ | ⟨_, _, -, -, h⟩ | ⟨-, h⟩ := s.step_cases c
    · rw [h]
    · rw [h]
    · rw [h, reset]

theorem after_checkAll_cons (h : checkProgram s.config s.env p = .ok c)
    (log : List (Program Unit × Checked)) :
    s.after (checkAll ((p, c) :: log)) =
      (⟨s.config, c.env, s.chunks + 1⟩ : Session).after (checkAll log) := by
  rw [checkAll, List.map_cons, after_cons, step_check_of_ok h]
  rfl

/-- A log is committed chunk by chunk, each by the session that the one before leaves. -/
theorem commits_cons_iff :
    s.Commits ((p, c) :: log) ↔ checkProgram s.config s.env p = .ok c ∧
      (⟨s.config, c.env, s.chunks + 1⟩ : Session).Commits log := by
  rw [Commits, checkAll, List.map_cons, List.map_cons, events_cons]
  cases h : checkProgram s.config s.env p with
  | error fault => simp [step_check_of_error h]
  | ok checked =>
    rw [step_check_of_ok h, List.cons.injEq, Event.committed.injEq, Except.ok.injEq,
      and_iff_right rfl]
    refine and_congr_right fun hc ↦ ?_
    rw [hc]
    rfl

theorem after_checkAll_append (s : Session) (log log' : List (Program Unit × Checked)) :
    s.after (checkAll (log ++ log')) = (s.after (checkAll log)).after (checkAll log') := by
  rw [checkAll, List.map_append, after_append]
  rfl

/-- The second part of a log is committed where the first part has led. -/
theorem Commits.of_append (h : s.Commits (log ++ log')) : (s.after (checkAll log)).Commits log' := by
  rw [Commits, checkAll, List.map_append, List.map_append, events_append] at h
  refine (List.append_inj h ?_).2
  rw [length_events, List.length_map, List.length_map]

/-- **A run of chunks that declare only what is new** leads to an environment that covers the one at its
start. -/
theorem covers_after (hlog : s.Commits log)
    (hnew : ∀ earlier l later, log = earlier ++ l :: later →
      l.1.IsNewTo (s.after (checkAll earlier)).env) :
    Covers s.env .topLevel (s.after (checkAll log)).env .topLevel := by
  induction log generalizing s with
  | nil => exact .refl _ _
  | cons l log ih =>
    obtain ⟨p, c⟩ := l
    obtain ⟨hcheck, hrest⟩ := commits_cons_iff.1 hlog
    have hfirst : Covers s.env .topLevel c.env .topLevel :=
      covers_of_isNewTo hcheck (hnew [] (p, c) log rfl)
    rw [after_checkAll_cons hcheck]
    refine hfirst.trans (ih hrest fun earlier l later hsplit ↦ ?_)
    rw [← after_checkAll_cons hcheck]
    exact hnew ((p, c) :: earlier) l later (congrArg _ hsplit)

end Session

/-! ### Definitions -/

/-- The definitions of a program that has been checked can be checked again in every environment that
covers the one it left, with the same result. They declare nothing that is not there. -/
theorem checkProgram_definitions_of_covers (h : checkProgram cfg env p = .ok c) {env' : Env}
    (hcov : Covers c.env .topLevel env' .topLevel) (span : Span) :
    checkProgram cfg env' ⟨[], p.funs, p.classes, [], span⟩ =
      .ok ⟨⟨[], c.program.funs, c.program.classes, [], span⟩, env', .none⟩ := by
  have hcov' : Covers (env.declare p) .topLevel env' .topLevel := (covers_of_checkProgram h).trans hcov
  obtain ⟨vars, -, funs, hfuns, classes, hclasses, stmts, s, -, rfl⟩ := checkProgram_eq_ok_iff.1 h
  have hdeclare : env'.declare (⟨[], p.funs, p.classes, [], span⟩ : Program Unit) = env' := by
    have hfunctions : env'.functions.insertMany (p.funs.map FunDef.binding) = env'.functions := by
      apply Table.insertMany_eq_self
      intro f sig hf
      refine hcov'.functions f sig ?_
      rw [Env.functions_declare, Table.get?_insertMany, hf, Option.some_or]
    have hcls : env'.classes.insertMany (p.classes.map ClassDef.binding) = env'.classes := by
      apply Table.insertMany_eq_self
      intro c info hc
      refine hcov'.classes c info ?_
      rw [Env.classes_declare, Table.get?_insertMany, hc, Option.some_or]
    show Env.mk _ _ _ = Env.mk _ _ _
    rw [Env.mk.injEq]
    exact ⟨rfl, hfunctions, hcls⟩
  rw [checkProgram_eq_ok_iff, hdeclare]
  exact ⟨[], rfl, funs, mapM_checkFunDef_of_covers hcov' hfuns, classes,
    mapM_checkClassDef_of_covers hcov' hclasses, [], .topLevel, rfl, rfl⟩

namespace Session

variable {s : Session}

/-- The definitions of the first chunk of a run check at its end. -/
theorem Commits.definitions_of_head {after : List (Program Unit × Checked)}
    (h : s.Commits ((p, c) :: after))
    (hnew : ∀ earlier l later, after = earlier ++ l :: later →
      l.1.IsNewTo (s.after (checkAll ((p, c) :: earlier))).env) (span : Span) :
    checkProgram s.config (s.after (checkAll ((p, c) :: after))).env
        ⟨[], p.funs, p.classes, [], span⟩ =
      .ok ⟨⟨[], c.program.funs, c.program.classes, [], span⟩,
        (s.after (checkAll ((p, c) :: after))).env, .none⟩ := by
  obtain ⟨hcheck, hafter⟩ := commits_cons_iff.1 h
  simp only [after_checkAll_cons hcheck] at hnew ⊢
  exact checkProgram_definitions_of_covers hcheck (covers_after hafter hnew) span

/-- **Committed definitions stay valid.** Take a run of chunks that are all committed, and one of them
such that the later ones declare only what is new to the environment that they are checked in. Then the
functions and classes of that chunk check in the environment at the end of the run, and they come out
as they did when the chunk was committed. -/
theorem definitions_persist {cfg : Config} {env : Env}
    {before after : List (Program Unit × Checked)} {p : Program Unit} {c : Checked}
    (hrun : (start cfg env).Commits (before ++ (p, c) :: after))
    (hnew : ∀ earlier l later, after = earlier ++ l :: later →
      l.1.IsNewTo ((start cfg env).after (checkAll (before ++ (p, c) :: earlier))).env)
    (span : Span) :
    checkProgram cfg ((start cfg env).after (checkAll (before ++ (p, c) :: after))).env
        ⟨[], p.funs, p.classes, [], span⟩ =
      .ok ⟨⟨[], c.program.funs, c.program.classes, [], span⟩,
        ((start cfg env).after (checkAll (before ++ (p, c) :: after))).env, .none⟩ := by
  simp only [after_checkAll_append] at hnew ⊢
  have hconfig : ((start cfg env).after (checkAll before)).config = cfg := config_after _ _
  have hhead := hrun.of_append.definitions_of_head hnew span
  rwa [hconfig] at hhead

/-- A chunk whose function uses a global, and whose method uses the function and a field. -/
def definingChunk : Program Unit :=
  let m : Mark Unit := ⟨⟨0, 1⟩, ()⟩
  let ident (name : String) : Ident := ⟨name, m.span⟩
  let var (name : String) : VarDef Unit := ⟨⟨ident name, .int, m.span⟩, .int 3, m.span, m⟩
  let next : FunDef Unit := ⟨ident "next", [⟨ident "n", .int, m.span⟩], .int, [],
    [.ret m (some (.binary m .add (.var m "n") (.var m "limit")))], m⟩
  let bump : FunDef Unit := ⟨ident "bump", [⟨ident "self", .cls "Cell", m.span⟩], .int, [],
    [.ret m (some (.call m (ident "next") [.field m (.var m "self") (ident "value")]))], m⟩
  { vars := [var "limit"]
    funs := [next]
    classes := [⟨ident "Cell", [var "value"], [bump], m⟩]
    stmts := [.assign m (ident "cell") (.call m (ident "Cell") [])]
    span := m.span }

/-- A chunk that declares a function and a class, and introduces a variable with the name of a
parameter. -/
def extendingChunk : Program Unit :=
  let m : Mark Unit := ⟨⟨0, 1⟩, ()⟩
  let ident (name : String) : Ident := ⟨name, m.span⟩
  { vars := []
    funs := [⟨ident "zero", [], .int, [], [.ret m (some (.literal m (.int 0)))], m⟩]
    classes := [⟨ident "Box", [], [], m⟩]
    stmts := [.assign m (ident "n") (.method m (.var m "cell") (ident "bump") [])]
    span := m.span }

/-- The later chunk introduces a global with the name of a parameter, and the function is checked as
before. -/
theorem definitions_persist_extendingChunk :
    let s := start .strict .builtins
    let left := (s.after [.check nestedChunk, .check definingChunk, .check extendingChunk]).env
    ∃ c₀ c₁ c₂, s.Commits [(nestedChunk, c₀), (definingChunk, c₁), (extendingChunk, c₂)] ∧
      extendingChunk.IsNewTo (s.after [.check nestedChunk, .check definingChunk]).env ∧
      left.globals.keys = ["g", "b", "a", "limit", "cell", "n"] ∧
      checkProgram .strict left ⟨[], definingChunk.funs, definingChunk.classes, [], ⟨0, 1⟩⟩ =
        .ok ⟨⟨[], c₁.program.funs, c₁.program.classes, [], ⟨0, 1⟩⟩, left, .none⟩ := by
  intro s left
  have hrun : ∃ c₀ c₁ c₂,
      s.Commits [(nestedChunk, c₀), (definingChunk, c₁), (extendingChunk, c₂)] :=
    ⟨_, _, _, commits_cons_iff.2 ⟨rfl, commits_cons_iff.2 ⟨rfl, commits_cons_iff.2 ⟨rfl, rfl⟩⟩⟩⟩
  obtain ⟨c₀, c₁, c₂, hcommits⟩ := hrun
  have hnew : extendingChunk.IsNewTo (s.after [.check nestedChunk, .check definingChunk]).env := by
    decide
  have hkeys : left.globals.keys = ["g", "b", "a", "limit", "cell", "n"] := by decide
  refine ⟨c₀, c₁, c₂, hcommits, hnew, hkeys, ?_⟩
  refine @definitions_persist .strict .builtins [(nestedChunk, c₀)] [(extendingChunk, c₂)]
    definingChunk c₁ hcommits (fun earlier l later hsplit ↦ ?_) ⟨0, 1⟩
  -- There is only one later chunk.
  cases earlier with
  | nil =>
    obtain rfl : (extendingChunk, c₂) = l := (List.cons.inj hsplit).1
    exact hnew
  | cons _ earlier => simp at hsplit

end Session

end NominalCheck
