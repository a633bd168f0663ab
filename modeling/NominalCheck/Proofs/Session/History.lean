import Mathlib.Data.List.DropRight
import NominalCheck.Proofs.Promotion
import NominalCheck.Session

/-!
# The history of a session

A session is driven by commands: to check a chunk, or to drop everything. Each command becomes an
event, which also says what came of it, and the events of a run in their order are its history.

* A rejected chunk leaves no trace: the run without it has the same history otherwise and ends in the
  same session (`run_withoutRejected`).
* The number of chunks is read off the history: it counts what was committed **since the last reset**
  (`chunks_after`).
* Between two resets, declarations can be added and replaced, but none is ever lost or moved, and only
  a committed chunk that **declares** a name replaces what it stands for (`keeps_after`). The variables
  that statements introduce become globals as well, but they never replace one.

Each of these is a fact about a single step, carried along the run.
-/

namespace NominalCheck

/-! ### Commands and events -/

/-- What a session can be asked to do. -/
inductive Command where
  /-- To check a chunk. -/
  | check (chunk : Program Unit)
  /-- To drop everything committed. -/
  | reset
deriving Inhabited

/-- What a session has done. -/
inductive Event where
  /-- A chunk had no fault. -/
  | committed (chunk : Program Unit) (checked : Checked)
  /-- A chunk had a fault. -/
  | rejected (chunk : Program Unit) (fault : TypeError)
  /-- Everything committed was dropped. -/
  | reset
deriving Inhabited

namespace Event

/-- The command that led to an event. -/
def command : Event → Command
  | committed chunk _ | rejected chunk _ => .check chunk
  | reset => .reset

/-- The chunk that was committed, if one was. -/
def committed? : Event → Option (Program Unit)
  | committed chunk _ => some chunk
  | rejected _ _ | reset => none

/-- Whether a chunk was committed. -/
def isCommitted : Event → Bool
  | committed _ _ => true
  | rejected _ _ | reset => false

/-- Whether a chunk was rejected. -/
def isRejected : Event → Bool
  | rejected _ _ => true
  | committed _ _ | reset => false

/-- Whether the session was reset. -/
def isReset : Event → Bool
  | reset => true
  | committed _ _ | rejected _ _ => false

end Event

/-- The events in which something was done: all but the rejected chunks. -/
def withoutRejected (events : List Event) : List Event := events.filter fun e ↦ !e.isRejected

/-- The events after the last reset. -/
def sinceReset (events : List Event) : List Event := events.rtakeWhile fun e ↦ !e.isReset

/-- What happened since the last reset grows by each event, and starts over with a reset. -/
theorem sinceReset_concat (events : List Event) (e : Event) :
    sinceReset (events ++ [e]) = if e.isReset then [] else sinceReset events ++ [e] := by
  rw [sinceReset, List.rtakeWhile_concat]
  cases e.isReset <;> rfl

/-- The chunks that were committed, in order. -/
def committedChunks (events : List Event) : List (Program Unit) := events.filterMap Event.committed?

namespace Session

/-! ### Runs -/

/-- Carries out one command. -/
def step (s : Session) : Command → Event × Session
  | .check chunk =>
    match s.checkChunk chunk with
    | (.ok checked, s') => (.committed chunk checked, s')
    | (.error fault, s') => (.rejected chunk fault, s')
  | .reset => (.reset, s.reset)

/-- The session after the given commands. -/
def after (s : Session) (commands : List Command) : Session :=
  commands.foldl (fun s c ↦ (s.step c).2) s

/-- The history of a session that is given commands. -/
def events (s : Session) : List Command → List Event
  | [] => []
  | c :: cs => (s.step c).1 :: (s.step c).2.events cs

variable {s : Session} {chunk : Program Unit}

/-- A chunk that checks is committed. -/
theorem step_check_of_ok {checked : Checked}
    (h : checkProgram s.config s.env chunk = .ok checked) :
    s.step (.check chunk) = (.committed chunk checked, ⟨s.config, checked.env, s.chunks + 1⟩) := by
  rw [step, checkChunk_of_ok h]

/-- A chunk that does not is rejected, and the session is **as before**. -/
theorem step_check_of_error {fault : TypeError}
    (h : checkProgram s.config s.env chunk = .error fault) :
    s.step (.check chunk) = (.rejected chunk fault, s) := by
  rw [step, checkChunk_of_error h]

/-- Everything that a step can do. -/
theorem step_cases (s : Session) (c : Command) :
    (∃ chunk checked, c = .check chunk ∧ checkProgram s.config s.env chunk = .ok checked ∧
      s.step c = (.committed chunk checked, ⟨s.config, checked.env, s.chunks + 1⟩)) ∨
    (∃ chunk fault, c = .check chunk ∧ checkProgram s.config s.env chunk = .error fault ∧
      s.step c = (.rejected chunk fault, s)) ∨
    (c = .reset ∧ s.step c = (.reset, s.reset)) := by
  cases c with
  | check chunk =>
    cases h : checkProgram s.config s.env chunk with
    | ok checked => exact Or.inl ⟨chunk, checked, rfl, h, step_check_of_ok h⟩
    | error fault => exact Or.inr (Or.inl ⟨chunk, fault, rfl, h, step_check_of_error h⟩)
  | reset => exact Or.inr (Or.inr ⟨rfl, rfl⟩)

@[simp] theorem after_nil (s : Session) : s.after [] = s := rfl

@[simp] theorem after_cons (s : Session) (c : Command) (cs : List Command) :
    s.after (c :: cs) = (s.step c).2.after cs := rfl

theorem after_append (s : Session) (cs ds : List Command) :
    s.after (cs ++ ds) = (s.after cs).after ds :=
  List.foldl_append

@[simp] theorem events_nil (s : Session) : s.events [] = [] := rfl

@[simp] theorem events_cons (s : Session) (c : Command) (cs : List Command) :
    s.events (c :: cs) = (s.step c).1 :: (s.step c).2.events cs := rfl

/-- The events of further commands are those of the session that the first ones leave. -/
theorem events_append (s : Session) (cs ds : List Command) :
    s.events (cs ++ ds) = s.events cs ++ (s.after cs).events ds := by
  induction cs generalizing s with
  | nil => rfl
  | cons c cs ih => rw [List.cons_append, events_cons, events_cons, after_cons, ih, List.cons_append]

theorem length_events (s : Session) (cs : List Command) : (s.events cs).length = cs.length := by
  induction cs generalizing s with
  | nil => rfl
  | cons c cs ih => rw [events_cons, List.length_cons, List.length_cons, ih]

/-- An event tells the command it answers. -/
theorem command_step (s : Session) (c : Command) : (s.step c).1.command = c := by
  obtain ⟨chunk, checked, rfl, -, h⟩ | ⟨chunk, fault, rfl, -, h⟩ | ⟨rfl, h⟩ := s.step_cases c
  · rw [h, Event.command]
  · rw [h, Event.command]
  · rw [h, Event.command]

/-- The history has an event for every command. -/
theorem map_command_events (s : Session) (cs : List Command) :
    (s.events cs).map Event.command = cs := by
  induction cs generalizing s with
  | nil => rfl
  | cons c cs ih => rw [events_cons, List.map_cons, command_step, ih]

/-! ### Rejected chunks -/

/-- A rejected chunk leaves the session as it was. -/
theorem step_of_isRejected {c : Command} (h : (s.step c).1.isRejected) : (s.step c).2 = s := by
  obtain ⟨chunk, checked, rfl, -, hstep⟩ | ⟨chunk, fault, rfl, -, hstep⟩ | ⟨rfl, hstep⟩ :=
    s.step_cases c
  · rw [hstep] at h
    cases h
  · rw [hstep]
  · rw [hstep] at h
    cases h

/-- **Rejected chunks leave no trace.** What remains of a history when they are taken out is the history
of the remaining commands, and these lead to the same session. -/
theorem run_withoutRejected (s : Session) (cs : List Command) :
    s.events ((withoutRejected (s.events cs)).map Event.command) = withoutRejected (s.events cs) ∧
      s.after ((withoutRejected (s.events cs)).map Event.command) = s.after cs := by
  induction cs generalizing s with
  | nil => exact ⟨rfl, rfl⟩
  | cons c cs ih =>
    have hrest := ih (s.step c).2
    rw [events_cons, after_cons]
    cases hrejected : (s.step c).1.isRejected with
    | true =>
      have hfilter : withoutRejected ((s.step c).1 :: (s.step c).2.events cs) =
          withoutRejected ((s.step c).2.events cs) := List.filter_cons_of_neg (by simp [hrejected])
      rw [hfilter]
      rw [step_of_isRejected hrejected] at hrest ⊢
      exact hrest
    | false =>
      have hfilter : withoutRejected ((s.step c).1 :: (s.step c).2.events cs) =
          (s.step c).1 :: withoutRejected ((s.step c).2.events cs) :=
        List.filter_cons_of_pos (by simp [hrejected])
      rw [hfilter, List.map_cons, command_step]
      exact ⟨congrArg _ hrest.1, hrest.2⟩

/-! ### The number of chunks -/

/-- **The chunks are those committed since the last reset.** -/
theorem chunks_after (cfg : Config) (env : Env) (cs : List Command) :
    ((start cfg env).after cs).chunks =
      (sinceReset ((start cfg env).events cs)).countP Event.isCommitted := by
  -- The induction is on the last command, since the count starts over at a reset.
  induction cs using List.reverseRecOn with
  | nil => rfl
  | append_singleton cs c ih =>
    rw [after_append, events_append, after_cons, after_nil, events_cons, events_nil, sinceReset_concat]
    generalize (start cfg env).after cs = s at ih ⊢
    obtain ⟨chunk, checked, rfl, -, h⟩ | ⟨chunk, fault, rfl, -, h⟩ | ⟨rfl, h⟩ := s.step_cases c
    · rw [h]
      show s.chunks + 1 = (sinceReset ((start cfg env).events cs) ++ [_]).countP _
      rw [List.countP_append, ← ih]
      rfl
    · rw [h]
      show s.chunks = (sinceReset ((start cfg env).events cs) ++ [_]).countP _
      rw [List.countP_append, ← ih]
      rfl
    · rw [h]
      rfl

end Session

/-! ### Declarations -/

/-- The names that a program declares as variables. -/
def Program.varNames {α : Type} (p : Program α) : List String := p.vars.map fun v ↦ v.binding.1

/-- The names that a program declares as functions. -/
def Program.funNames {α : Type} (p : Program α) : List String := p.funs.map fun f ↦ f.binding.1

/-- The names that a program declares as classes. -/
def Program.classNames {α : Type} (p : Program α) : List String := p.classes.map fun c ↦ c.binding.1

/-- Every global, function and class of the first environment has its place in the second, and means
the same there unless one of the programs declares a global, function or class of its name. -/
structure Env.Keeps (env env' : Env) (programs : List (Program Unit)) : Prop where
  globals : env.globals.Keeps env'.globals (programs.flatMap Program.varNames)
  functions : env.functions.Keeps env'.functions (programs.flatMap Program.funNames)
  classes : env.classes.Keeps env'.classes (programs.flatMap Program.classNames)

namespace Env.Keeps

variable {env env₁ env₂ : Env}

protected theorem refl (env : Env) : env.Keeps env [] where
  globals := .refl _
  functions := .refl _
  classes := .refl _

/-- What is kept in two stretches is kept over both, but for what either of them declares. -/
theorem trans {ps qs : List (Program Unit)} (h : env.Keeps env₁ ps) (h' : env₁.Keeps env₂ qs) :
    env.Keeps env₂ (ps ++ qs) where
  globals := List.flatMap_append ▸ h.globals.trans h'.globals
  functions := List.flatMap_append ▸ h.functions.trans h'.functions
  classes := List.flatMap_append ▸ h.classes.trans h'.classes

end Env.Keeps

/-- Declaring a chunk writes the names that it declares, and no others. -/
theorem Env.keeps_declare (env : Env) (p : Program Unit) : env.Keeps (env.declare p) [p] where
  globals := by
    simpa [Program.varNames, Function.comp_def] using
      env.globals.keeps_insertMany (p.vars.map VarDef.binding)
  functions := by
    simpa [Program.funNames, Function.comp_def] using
      env.functions.keeps_insertMany (p.funs.map FunDef.binding)
  classes := by
    simpa [Program.classNames, Function.comp_def] using
      env.classes.keeps_insertMany (p.classes.map ClassDef.binding)

/-- A program that checks replaces only what it declares: the variables that it introduces are new. -/
theorem keeps_of_checkProgram {cfg : Config} {env : Env} {p : Program Unit} {c : Checked}
    (h : checkProgram cfg env p = .ok c) : env.Keeps c.env [p] := by
  obtain ⟨vars, -, funs, -, classes, -, stmts, s, hstmts, rfl⟩ := checkProgram_eq_ok_iff.1 h
  have hpromote : (env.declare p).Keeps ((env.declare p).promote s) [] :=
    { globals := by
        rw [globals_promote_of_checkBlock hstmts]
        exact (env.declare p).globals.keeps_insertNew _
      functions := .refl _
      classes := .refl _ }
  exact (env.keeps_declare p).trans hpromote

namespace Session

/-- **One command keeps** whatever the chunk that it commits does not declare; a rejected one keeps
everything. -/
theorem keeps_step (s : Session) {c : Command} (hc : c ≠ .reset) :
    s.env.Keeps (s.step c).2.env (committedChunks [(s.step c).1]) := by
  obtain ⟨chunk, checked, rfl, hcheck, h⟩ | ⟨chunk, fault, rfl, -, h⟩ | ⟨rfl, -⟩ := s.step_cases c
  · rw [h]
    exact keeps_of_checkProgram hcheck
  · rw [h]
    exact .refl _
  · exact absurd rfl hc

/-- **Without a reset, only what is declared anew changes.** -/
theorem keeps_after (s : Session) {cs : List Command} (hcs : .reset ∉ cs) :
    s.env.Keeps (s.after cs).env (committedChunks (s.events cs)) := by
  induction cs generalizing s with
  | nil => exact .refl _
  | cons c cs ih =>
    rw [List.mem_cons, not_or] at hcs
    have hstep := s.keeps_step (Ne.symm hcs.1)
    have hevents : committedChunks (s.events (c :: cs)) =
        committedChunks [(s.step c).1] ++ committedChunks ((s.step c).2.events cs) := by
      rw [events_cons, ← List.singleton_append, committedChunks, List.filterMap_append]
      rfl
    rw [after_cons, hevents]
    exact hstep.trans (ih _ hcs.2)

/-- **The history of a session.** However commands follow each other, the run without its rejected
chunks has the same events otherwise and ends in the same session. The number of chunks is that of the
chunks committed since the last reset. And between any two moments without a reset in between, every
global, function and class keeps its place, and it keeps its meaning unless a chunk that was committed
in between declares its name. -/
theorem history_laws (cfg : Config) (env : Env) (cs : List Command) :
    let s := start cfg env
    let kept := withoutRejected (s.events cs)
    ((s.events cs).map Event.command = cs ∧ s.events (kept.map Event.command) = kept ∧
      s.after (kept.map Event.command) = s.after cs) ∧
    (s.after cs).chunks = (sinceReset (s.events cs)).countP Event.isCommitted ∧
    ∀ before between rest, cs = before ++ between ++ rest → .reset ∉ between →
      (s.after before).env.Keeps (s.after (before ++ between)).env
        (committedChunks ((s.after before).events between)) := by
  intro s kept
  refine ⟨⟨s.map_command_events cs, s.run_withoutRejected cs⟩, chunks_after cfg env cs, ?_⟩
  intro before between rest _ hreset
  rw [after_append]
  exact keeps_after _ hreset

/-- A chunk that uses a name which nothing declares. -/
def faultyChunk : Program Unit :=
  let m : Mark Unit := ⟨⟨0, 1⟩, ()⟩
  ⟨[], [], [], [.assign m ⟨"d", m.span⟩ (.literal m (.int 1)), .expr m (.var m "missing")], m.span⟩

/-- A chunk that declares the global `g` with another type than before, assigns to the global `b` and
introduces `c`. -/
def renewingChunk : Program Unit :=
  let m : Mark Unit := ⟨⟨0, 1⟩, ()⟩
  { vars := [⟨⟨⟨"g", m.span⟩, .bool, m.span⟩, .bool true, m.span, m⟩]
    funs := []
    classes := []
    stmts := [.assign m ⟨"b", m.span⟩ (.var m "g"), .assign m ⟨"c", m.span⟩ (.literal m (.int 1))]
    span := m.span }

/-- A run with a failure, a redeclaration, new names and a reset. -/
theorem history_laws_renewingChunk :
    let s := start .strict .builtins
    let first := [.check nestedChunk]
    let next := [.check faultyChunk, .check renewingChunk]
    let cs := first ++ next ++ [.reset, .check nestedChunk]
    (s.events cs).map Event.isRejected = [false, true, false, false, false] ∧
      (s.after cs).chunks = 1 ∧ (sinceReset (s.events cs)).countP Event.isCommitted = 1 ∧
      s.after ((withoutRejected (s.events cs)).map Event.command) = s.after cs ∧
      (s.after first).env.globals.entries = [("g", .int), ("b", .bool), ("a", .cls "A")] ∧
      (s.after (first ++ next)).env.globals.entries =
        [("g", .bool), ("b", .bool), ("a", .cls "A"), ("c", .int)] ∧
      Command.reset ∉ next ∧
      (s.after first).env.Keeps (s.after (first ++ next)).env
        (committedChunks ((s.after first).events next)) := by
  intro s first next cs
  obtain ⟨⟨-, -, hkept⟩, hchunks, hkeeps⟩ := history_laws .strict .builtins cs
  have hreset : Command.reset ∉ next := by simp [next]
  have hrejected : (s.events cs).map Event.isRejected = [false, true, false, false, false] := by
    decide
  have hone : (s.after cs).chunks = 1 := by decide
  have hfirst : (s.after first).env.globals.entries =
      [("g", .int), ("b", .bool), ("a", .cls "A")] := by decide
  have hnext : (s.after (first ++ next)).env.globals.entries =
      [("g", .bool), ("b", .bool), ("a", .cls "A"), ("c", .int)] := by decide
  exact ⟨hrejected, hone, hchunks.symm.trans hone, hkept, hfirst, hnext, hreset,
    hkeeps first next [.reset, .check nestedChunk] rfl hreset⟩

end Session

end NominalCheck
