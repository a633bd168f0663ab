import NominalCheck.Check.Program

/-!
# Sessions

A session checks chunks one after the other, each against the environment that the chunks before it
have built up. A chunk is committed as a whole or not at all: a faulty one leaves the session as it
was.
-/

namespace NominalCheck

/-- The state between two chunks. -/
structure Session where
  /-- The choices that every chunk is checked with. -/
  config : Config
  /-- The environment built up so far. -/
  env : Env
  /-- The number of chunks committed since the start or the last reset. -/
  chunks : Nat
deriving DecidableEq, Inhabited

namespace Session

/-- A session that starts from the given environment. -/
def start (config : Config) (env : Env) : Session := ⟨config, env, 0⟩

/-- Checks a chunk and commits it if it has no fault. -/
def checkChunk (s : Session) (chunk : Program Unit) : Except TypeError Checked × Session :=
  match checkProgram s.config s.env chunk with
  | .ok checked => (.ok checked, { s with env := checked.env, chunks := s.chunks + 1 })
  | .error e => (.error e, s)

/-- A chunk without a fault is committed. -/
theorem checkChunk_of_ok {s : Session} {chunk : Program Unit} {checked : Checked}
    (h : checkProgram s.config s.env chunk = .ok checked) :
    s.checkChunk chunk = (.ok checked, ⟨s.config, checked.env, s.chunks + 1⟩) := by
  rw [checkChunk, h]

/-- A faulty chunk leaves the session as it was. -/
theorem checkChunk_of_error {s : Session} {chunk : Program Unit} {e : TypeError}
    (h : checkProgram s.config s.env chunk = .error e) : s.checkChunk chunk = (.error e, s) := by
  rw [checkChunk, h]

/-- Drops everything committed. Whatever environment the session started from, only the builtins
remain. -/
def reset (s : Session) : Session := { s with env := .builtins, chunks := 0 }

end Session

end NominalCheck
