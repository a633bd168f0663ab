import NominalCheck.Ty

/-!
# Choices in the rules

Three places in the rules admit a choice. `Config.reference` leaves every extra check out,
`Config.strict` takes all of them.
-/

namespace NominalCheck

/-- The choices that a check is run with. -/
structure Config where
  /-- The argument of a one-argument builtin other than `print` has to fit its parameter. -/
  strictBuiltinArguments : Bool
  /-- The parameters of a two-argument builtin have to accept the arguments. Without this choice it
  is the arguments' types that have to accept the parameters. -/
  conventionalBuiltinDirection : Bool
  /-- The arguments of a construction have to fit the constructor's parameters. -/
  checkConstructorArguments : Bool
deriving DecidableEq, Repr, Inhabited

namespace Config

/-- No extra checks. -/
def reference : Config := ⟨false, false, false⟩

/-- All extra checks. -/
def strict : Config := ⟨true, true, true⟩

/-- A two-argument builtin takes an argument of type `arg` for a parameter of type `param`. -/
def BuiltinAccepts (cfg : Config) (param arg : Ty) : Prop :=
  if cfg.conventionalBuiltinDirection then param.Accepts arg else arg.Accepts param

instance (cfg : Config) : DecidableRel cfg.BuiltinAccepts := fun param arg ↦
  inferInstanceAs
    (Decidable (if cfg.conventionalBuiltinDirection then param.Accepts arg else arg.Accepts param))

end Config

end NominalCheck
