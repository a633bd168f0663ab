/-!
# Static types

There are three primitive types and one type for every class name. Types are **nominal**: a class
type is its name, whether or not a class of that name is declared, and two types are the same
exactly if they are built the same way.

The one coercion is that the type of `None` is accepted wherever a class is expected. It goes in
that direction only, and class types never stand in for one another: there is no inheritance.
-/

namespace NominalCheck

/-- The types that expressions, statements and declarations have. -/
inductive Ty where
  /-- The integers. -/
  | int
  /-- The truth values. -/
  | bool
  /-- The type of the value `None`. -/
  | none
  /-- The objects of the class with the given name. -/
  | cls (name : String)
deriving DecidableEq, Repr, Inhabited

namespace Ty

/-- The class whose values the builtin `print` is declared to take. -/
def object : Ty := .cls "object"

/-- How a type is written in messages. -/
def text : Ty → String
  | .int => "int"
  | .bool => "bool"
  | .none => "<None>"
  | .cls name => name

/-- The name of a class type. -/
def className? : Ty → Option String
  | .cls name => some name
  | _ => Option.none

/-- Whether the type is a class type. -/
def isClass : Ty → Bool
  | .cls _ => true
  | _ => false

/-- Whether values of the type can be compared by identity: `None` and objects can. -/
def isReference : Ty → Bool
  | .none | .cls _ => true
  | _ => false

/-- A value of type `source` may stand where `target` is expected: the two are the same type, or the
value is `None` and an object is expected. -/
def Accepts (target source : Ty) : Prop :=
  target = source ∨ (source = .none ∧ target.isClass)

instance : DecidableRel Accepts := fun target source ↦
  inferInstanceAs (Decidable (target = source ∨ (source = .none ∧ target.isClass)))

/-- The common type of two branches, which only equal types have. -/
def join? (left right : Ty) : Option Ty :=
  if left = right then some left else Option.none

/-! ### Basic facts -/

@[simp] theorem Accepts.refl (t : Ty) : t.Accepts t := Or.inl rfl

@[simp] theorem Accepts.none_cls (name : String) : (cls name).Accepts .none := Or.inr ⟨rfl, rfl⟩

/-- Only equal types have a common one. -/
theorem join?_eq_some_iff {left right t : Ty} :
    left.join? right = some t ↔ left = t ∧ right = t := by
  unfold join?
  split
  case isTrue h => subst h; simp
  case isFalse h =>
    simp only [reduceCtorEq, false_iff, not_and]
    rintro rfl rfl
    exact h rfl

end Ty

end NominalCheck
