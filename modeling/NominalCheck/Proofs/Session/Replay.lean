import NominalCheck.Proofs.Context.Covering
import NominalCheck.Session

/-!
# Replaying a chunk

A chunk that has been committed can be checked again, against the environment that it left, and
nothing changes: it comes out as the same annotated tree with the same type, and the environment stays
as it is, down to the order of its tables.

The second check is not the first one over again. The declarations are made on top of themselves and
of the variables that the statements have introduced in the meantime (`Env.declare_promote`); functions
and methods see these variables as **new globals**; and every first assignment is now an assignment to
a global that exists. What carries the proof is that the environment which is left covers the context
in which the statements ended (`covers_promote`), and so every context that the first check went
through.
-/

namespace NominalCheck

open CheckM

variable {cfg : Config} {env : Env}

/-- At top level, the variables of a scope are found after promotion as they were before. -/
theorem covers_promote {s : Scope} (hs : s.kind = .topLevel) :
    Covers env s (env.promote s) .topLevel where
  kind := hs
  resolve x _ hx := (Env.get?_globals_promote env s x).trans hx
  functions _ _ hf := hf
  classes _ _ hc := hc
  callable _ _ hf := hf

/-- Declarations have no effect when they are made again, also after variables have been introduced:
none of these has the name of a declared global. -/
theorem Env.declare_promote {p : Program Unit} {bs : List (String × Ty)}
    (hbs : Introduces (env.declare p) .topLevel bs) :
    ((env.declare p).promote (Scope.topLevel.bindMany bs)).declare p =
      (env.declare p).promote (Scope.topLevel.bindMany bs) := by
  have hglobals : ((env.declare p).promote (Scope.topLevel.bindMany bs)).globals.insertMany
      (p.vars.map VarDef.binding) =
        ((env.declare p).promote (Scope.topLevel.bindMany bs)).globals := by
    apply Table.insertMany_eq_self
    intro x t hx
    have hdeclared : Scope.topLevel.resolve? (env.declare p) x = some t := by
      show (env.globals.insertMany (p.vars.map VarDef.binding)).get? x = some t
      rw [Table.get?_insertMany, hx, Option.some_or]
    rw [Env.get?_globals_promote]
    exact hbs.resolve?_bindMany hdeclared
  have hfunctions := Table.insertMany_insertMany_self env.functions (p.funs.map FunDef.binding)
  have hclasses := Table.insertMany_insertMany_self env.classes (p.classes.map ClassDef.binding)
  show Env.mk _ _ _ = Env.mk _ _ _
  rw [Env.mk.injEq]
  exact ⟨hglobals, hfunctions, hclasses⟩

/-- A program that checks, checks again in the environment that it leaves, with the same result. -/
theorem checkProgram_env_of_ok {p : Program Unit} {c : Checked}
    (h : checkProgram cfg env p = .ok c) : checkProgram cfg c.env p = .ok c := by
  obtain ⟨vars, hvars, funs, hfuns, classes, hclasses, stmts, s, hstmts, rfl⟩ :=
    checkProgram_eq_ok_iff.1 h
  obtain ⟨bs, hbs, rfl⟩ := (checkBlock_grows p.stmts).exists_introduces hstmts
  -- `left` is the environment that is left; it covers the statements where they end and where they
  -- start, and the latter is what the definitions need.
  generalize hleft : (env.declare p).promote (Scope.topLevel.bindMany bs) = left
  have hend : Covers (env.declare p) (Scope.topLevel.bindMany bs) left .topLevel :=
    hleft ▸ covers_promote rfl
  have hstart : Covers (env.declare p) .topLevel left .topLevel := hend.of_introduces hbs
  have hdeclare : left.declare p = left := hleft ▸ Env.declare_promote hbs
  have hfuns' : p.funs.mapM (checkFunDef cfg left) = .ok funs :=
    mapM_checkFunDef_of_covers hstart hfuns
  have hclasses' : p.classes.mapM (checkClassDef cfg left) = .ok classes :=
    mapM_checkClassDef_of_covers hstart hclasses
  have hstmts' : runIn .topLevel (checkBlock cfg left p.stmts) = (.ok stmts, .topLevel) :=
    checkBlock_of_covers hend hstmts
  rw [checkProgram_eq_ok_iff, hdeclare]
  exact ⟨vars, hvars, funs, hfuns', classes, hclasses', stmts, .topLevel, hstmts', rfl⟩

/-- **Replaying a committed chunk is a no-op.** Checked against the environment that it left, a program
gives the same result as before. So a session that has just committed a chunk accepts it once more,
with the same annotated tree, and only the number of its chunks changes. -/
theorem checkProgram_replay {cfg : Config} {env : Env} {p : Program Unit} {c : Checked}
    (h : checkProgram cfg env p = .ok c) :
    checkProgram cfg c.env p = .ok c ∧
      ∀ n, (⟨cfg, env, n⟩ : Session).checkChunk p = (.ok c, ⟨cfg, c.env, n + 1⟩) ∧
        (⟨cfg, c.env, n + 1⟩ : Session).checkChunk p = (.ok c, ⟨cfg, c.env, n + 2⟩) := by
  have hagain : checkProgram cfg c.env p = .ok c := checkProgram_env_of_ok h
  exact ⟨hagain, fun n ↦ ⟨Session.checkChunk_of_ok h, Session.checkChunk_of_ok hagain⟩⟩

/-- A chunk whose function has a local variable `x` of another type than the global `x` that the
statements introduce. The variable `y` is introduced in one branch and set to `None` in the other. -/
def introducingChunk : Program Unit :=
  let m : Mark Unit := ⟨⟨0, 1⟩, ()⟩
  let ident (name : String) : Ident := ⟨name, m.span⟩
  { vars := []
    funs := [⟨ident "f", [⟨ident "n", .int, m.span⟩], .int,
      [⟨⟨ident "x", .bool, m.span⟩, .bool true, m.span, m⟩],
      [.assign m (ident "x") (.literal m (.bool false)), .ret m (some (.var m "n"))], m⟩]
    classes := [⟨ident "A", [], [], m⟩]
    stmts := [.assign m (ident "x") (.call m (ident "f") [.literal m (.int 1)]),
      .ifElse m (.binary m .eq (.var m "x") (.literal m (.int 1)))
        [.assign m (ident "y") (.call m (ident "A") [])]
        [.assign m (ident "y") (.literal m .none)]]
    span := m.span }

/-- When the chunk is entered again, `x` and `y` are globals already, and the local `x` is none of
them. -/
theorem checkProgram_replay_introducingChunk :
    ∃ c, checkProgram .strict .builtins introducingChunk = .ok c ∧
      c.env.globals.keys = ["x", "y"] ∧ checkProgram .strict c.env introducingChunk = .ok c ∧
        ∀ n, (⟨.strict, c.env, n + 1⟩ : Session).checkChunk introducingChunk =
          (.ok c, ⟨.strict, c.env, n + 2⟩) := by
  have hfirst : ∃ c, checkProgram .strict .builtins introducingChunk = .ok c ∧
      c.env.globals.keys = ["x", "y"] := ⟨_, rfl, rfl⟩
  obtain ⟨c, hc, hkeys⟩ := hfirst
  obtain ⟨hagain, hsession⟩ := checkProgram_replay hc
  exact ⟨c, hc, hkeys, hagain, fun n ↦ (hsession n).2⟩

end NominalCheck
