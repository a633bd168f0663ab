import NominalCheck.Proofs.Context.Agreement
import NominalCheck.Proofs.Typing.Stmt

/-!
# Splitting a program into chunks

A program can be cut between two of its statements. The first part keeps all declarations, and the
second part is a program of statements only, checked against the environment that the first part
leaves. The two checks together are the check of the whole program: they find the same fault, or they
give the same annotated statements, the same environment and the same type.

The point of it is that the second part sees the variables introduced by the first part as **globals**,
in an empty scope, while the whole program has them in its scope. The two contexts agree
(`agree_promote`), so the remaining statements run in lockstep, and the bindings that they make end up
in the same places (`Env.promote_bindMany`).
-/

namespace NominalCheck

open CheckM

variable {cfg : Config} {env : Env}

/-! ### Declarations first, statements last -/

/-- The annotated declarations of a program, checked in the environment that declares them. -/
def checkDefs (cfg : Config) (env : Env) (p : Program Unit) : Except TypeError (Program Ty) := do
  let vars ← p.vars.mapM checkVarDef
  let funs ← p.funs.mapM (checkFunDef cfg env)
  let classes ← p.classes.mapM (checkClassDef cfg env)
  pure { vars, funs, classes, stmts := [], span := p.span }

/-- The result of a check whose statements have come out as `stmts` and have left the scope `s`. -/
def Checked.ofStmts (defs : Program Ty) (env : Env) (stmts : List (Stmt Ty)) (s : Scope) : Checked where
  program := { defs with stmts }
  env := env.promote s
  type := blockType stmts

/-- **A program is its declarations and then its statements**, which meet in the environment only. -/
theorem checkProgram_eq_bind (p : Program Unit) :
    checkProgram cfg env p = (do
      let defs ← checkDefs cfg (env.declare p) p
      let r ← checkBody cfg (env.declare p) .topLevel p.stmts
      pure (.ofStmts defs (env.declare p) r.1 r.2)) := by
  simp only [checkProgram, checkDefs, bind_assoc, pure_bind]
  rfl

/-- A program without declarations declares nothing and has nothing to check but its statements. -/
theorem checkProgram_stmts (stmts : List (Stmt Unit)) (span : Span) :
    checkProgram cfg env ⟨[], [], [], stmts, span⟩ = (do
      let r ← checkBody cfg env .topLevel stmts
      pure (.ofStmts ⟨[], [], [], [], span⟩ env r.1 r.2)) := by
  rw [checkProgram_eq_bind]
  rfl

/-! ### Blocks -/

/-- A block can be checked in two goes. -/
theorem checkBlock_append (a b : List (Stmt Unit)) :
    checkBlock cfg env (a ++ b) = (do
      let a' ← checkBlock cfg env a
      let b' ← checkBlock cfg env b
      pure (a' ++ b')) := by
  induction a with
  | nil => simp [checkBlock]
  | cons x a ih => simp [checkBlock, ih]

/-- The second half of a body starts in the scope that the first half leaves. -/
theorem checkBody_append (s : Scope) (a b : List (Stmt Unit)) :
    checkBody cfg env s (a ++ b) = (do
      let r ← checkBody cfg env s a
      let r' ← checkBody cfg env r.2 b
      pure (r.1 ++ r'.1, r'.2)) := by
  rw [checkBody, checkBlock_append, runIn_bind, checkBody]
  rcases runIn s (checkBlock cfg env a) with ⟨e | a', s₁⟩
  · rfl
  · rw [ok_bind]
    simp only [runIn_bind, checkBody]
    rcases runIn s₁ (checkBlock cfg env b) with ⟨e | b', s₂⟩
    · rfl
    · rfl

/-- The type of a block is that of its second half, unless that is empty. -/
theorem blockType_append (a b : List (Stmt Ty)) :
    blockType (a ++ b) = if b.isEmpty then blockType a else blockType b := by
  cases b with
  | nil => simp
  | cons x b =>
    have hlast : (a ++ x :: b).getLast? = (x :: b).getLast? := by
      rw [List.getLast?_append, List.getLast?_cons, Option.some_or]
    simp [blockType, hlast]

/-- Whether there are any statements can be read off the checked ones. -/
theorem isEmpty_eq_of_checkBlock {s s' : Scope} {b : List (Stmt Unit)} {b' : List (Stmt Ty)}
    (h : runIn s (checkBlock cfg env b) = (.ok b', s')) : b'.isEmpty = b.isEmpty := by
  cases b with
  | nil =>
    obtain ⟨rfl, -⟩ := checkBlock_nil_eq_ok_iff.1 h
    rfl
  | cons x b =>
    obtain ⟨x', -, -, xs', -, rfl⟩ := checkBlock_cons_eq_ok_iff.1 h
    rfl

/-! ### Scope and globals -/

/-- At top level, it makes no difference whether variables are held in the scope or have become
globals. -/
theorem agree_promote {s : Scope} (hs : s.kind = .topLevel) :
    Agree env s (env.promote s) .topLevel :=
  .of_resolve hs (fun x ↦ (Env.get?_globals_promote env s x).symm) rfl rfl

/-- What is a function stays one, and so does what is at top level. -/
theorem kind_eq_of_checkBody {s s' : Scope} {b : List (Stmt Unit)} {b' : List (Stmt Ty)}
    (h : checkBody cfg env s b = .ok (b', s')) : s'.kind = s.kind := by
  have hself : Agree env s env s := .of_resolve rfl (fun _ ↦ rfl) rfl rfl
  rcases checkBody_cases_of_agree hself b with ⟨e, he, -⟩ | ⟨_, bs, hbs, -⟩
  · cases he.symm.trans h
  · cases hbs.symm.trans h
    rfl

/-! ### Two chunks -/

/-- What two checks amount to together if the second one goes on where the first one ended. -/
def Checked.followedBy (c₁ c₂ : Checked) : Checked where
  program := { c₁.program with stmts := c₁.program.stmts ++ c₂.program.stmts }
  env := c₂.env
  type := if c₂.program.stmts.isEmpty then c₁.type else c₂.type

/-- Promoting in two goes, with the first bindings as globals of the second, is promoting once. -/
theorem Checked.ofStmts_followedBy (defs defs' : Program Ty) (env : Env) (a b : List (Stmt Ty))
    (s : Scope) (bs : List (String × Ty)) :
    (Checked.ofStmts defs env a s).followedBy
        (.ofStmts defs' (env.promote s) b (Scope.topLevel.bindMany bs)) =
      .ofStmts defs env (a ++ b) (s.bindMany bs) := by
  rw [ofStmts, ofStmts, ofStmts, followedBy, ← Env.promote_bindMany, blockType_append]

/-- **Checking two chunks in turn is checking them as one**, as an equation between outcomes. -/
theorem checkProgram_append_eq (p : Program Unit) (a b : List (Stmt Unit)) (span : Span) :
    checkProgram cfg env { p with stmts := a ++ b } = (do
      let c₁ ← checkProgram cfg env { p with stmts := a }
      let c₂ ← checkProgram cfg c₁.env ⟨[], [], [], b, span⟩
      pure (c₁.followedBy c₂)) := by
  -- The declarations do not depend on the statements, and neither does what they come out as.
  have hdefs : ∀ stmts, checkProgram cfg env { p with stmts } = (do
      let defs ← checkDefs cfg (env.declare p) p
      let r ← checkBody cfg (env.declare p) .topLevel stmts
      pure (.ofStmts defs (env.declare p) r.1 r.2)) :=
    fun stmts ↦ checkProgram_eq_bind { p with stmts }
  rw [hdefs, hdefs, checkBody_append]
  cases checkDefs cfg (env.declare p) p with
  | error e => rfl
  | ok defs =>
    rcases hfirst : checkBody cfg (env.declare p) .topLevel a with e | ⟨a', s⟩
    · rfl
    · have hs : s.kind = .topLevel := kind_eq_of_checkBody hfirst
      simp only [ok_bind, pure_bind, bind_assoc]
      show _ = checkProgram cfg ((env.declare p).promote s) ⟨[], [], [], b, span⟩ >>= _
      rw [checkProgram_stmts]
      rcases checkBody_cases_of_agree (agree_promote hs) b with ⟨e, he, he'⟩ | ⟨b', bs, hb, hb'⟩
      · rw [he, he']
        rfl
      · rw [hb, hb']
        exact congrArg Except.ok (Checked.ofStmts_followedBy defs _ _ a' b' s bs).symm

/-- **Chunk splitting is invisible.** A program whose statements are cut in two checks exactly if its
first part does and then the rest does in the environment that the first part leaves. The annotated
declarations are those of the first part, the annotated statements are those of both, the environment
is the one after the second part, and so is the type unless that part is empty. The program has a fault
exactly if one of the parts has it. -/
theorem checkProgram_append (cfg : Config) (env : Env) (p : Program Unit) (a b : List (Stmt Unit))
    (span : Span) :
    (∀ c, checkProgram cfg env { p with stmts := a ++ b } = .ok c ↔
      ∃ c₁ c₂, checkProgram cfg env { p with stmts := a } = .ok c₁ ∧
        checkProgram cfg c₁.env ⟨[], [], [], b, span⟩ = .ok c₂ ∧
        c.program = { c₁.program with stmts := c₁.program.stmts ++ c₂.program.stmts } ∧
        c.env = c₂.env ∧ c.type = if b.isEmpty then c₁.type else c₂.type) ∧
    (∀ e, checkProgram cfg env { p with stmts := a ++ b } = .error e ↔
      checkProgram cfg env { p with stmts := a } = .error e ∨
        ∃ c₁, checkProgram cfg env { p with stmts := a } = .ok c₁ ∧
          checkProgram cfg c₁.env ⟨[], [], [], b, span⟩ = .error e) := by
  rw [checkProgram_append_eq p a b span]
  refine ⟨fun c ↦ ?_, fun e ↦ ?_⟩
  · simp only [bind_eq_ok_iff, pure_eq_ok_iff]
    have hempty : ∀ {env₁ c₂}, checkProgram cfg env₁ ⟨[], [], [], b, span⟩ = .ok c₂ →
        c₂.program.stmts.isEmpty = b.isEmpty := by
      intro env₁ c₂ h
      obtain ⟨vars, -, funs, -, classes, -, stmts, s, hstmts, rfl⟩ := checkProgram_eq_ok_iff.1 h
      exact isEmpty_eq_of_checkBlock hstmts
    constructor
    · rintro ⟨c₁, h₁, c₂, h₂, rfl⟩
      refine ⟨c₁, c₂, h₁, h₂, rfl, rfl, ?_⟩
      rw [Checked.followedBy, hempty h₂]
    · rintro ⟨c₁, c₂, h₁, h₂, hprogram, henv, htype⟩
      refine ⟨c₁, h₁, c₂, h₂, ?_⟩
      obtain ⟨program, env', type⟩ := c
      rw [Checked.followedBy, hempty h₂, Checked.mk.injEq]
      exact ⟨hprogram, henv, htype⟩
  · simp only [bind_eq_error_iff]
    constructor
    · rintro (h | ⟨c₁, h₁, h₂ | ⟨c₂, -, h⟩⟩)
      · exact Or.inl h
      · exact Or.inr ⟨c₁, h₁, h₂⟩
      · cases h
    · rintro (h | ⟨c₁, h₁, h₂⟩)
      · exact Or.inl h
      · exact Or.inr ⟨c₁, h₁, Or.inl h₂⟩

end NominalCheck
