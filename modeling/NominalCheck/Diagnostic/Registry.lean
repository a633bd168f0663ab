import NominalCheck.Ordered

/-!
# The registry of codes

Every kind of message has a code: the letter `E` and, by convention, four digits, the first of which
tells the category. A `Registry` lists codes with their descriptions, in ascending order and each
once. Only codes that belong to a category are taken up; registering a code again replaces its
description.

The order and the categories are part of what a registry **is**. An entry is put in by `insert`, which
keeps the first and asks for the second, and `register?` is how a code gets there: it finds the
category or gives nothing.
-/

namespace NominalCheck

/-- The families of codes. -/
inductive Category where
  /-- Typing rules: mismatches, operands, conditions, signatures. -/
  | core
  /-- The resolution of names and attributes. -/
  | naming
  /-- Rules about the structure of programs. -/
  | structural
  /-- Missing features and internal consistency. -/
  | internal
deriving DecidableEq, Repr, Inhabited

namespace Category

/-- The category that a code belongs to, as the character after the letter `E` tells. -/
def ofCode? (code : String) : Option Category :=
  match code.toList with
  | 'E' :: '0' :: _ => some core
  | 'E' :: '1' :: _ => some naming
  | 'E' :: '3' :: _ => some structural
  | 'E' :: '9' :: _ => some internal
  | _ => none

/-- How the category is called. -/
def name : Category → String
  | core => "Core"
  | naming => "Naming/Scope"
  | structural => "Syntax"
  | internal => "Internal"

end Category

/-- What is known about a code. -/
structure CodeInfo where
  /-- The code. -/
  code : String
  /-- The category that it belongs to. -/
  category : Category
  /-- What it stands for, in one line. -/
  description : String
deriving DecidableEq, Repr, Inhabited

/-- The known codes. -/
structure Registry where
  /-- The entries. -/
  infos : List CodeInfo
  /-- The codes ascend, so that none has two entries. -/
  ascends : Ascends (compareOn CodeInfo.code) infos
  /-- An entry has the category that its code belongs to. -/
  category_eq : ∀ info ∈ infos, Category.ofCode? info.code = some info.category
deriving DecidableEq

namespace Registry

/-- The registry without codes. -/
def empty : Registry where
  infos := []
  ascends := .nil
  category_eq := List.forall_mem_nil _

instance : Inhabited Registry := ⟨empty⟩

/-- Inserting an entry with the category of its code leaves every entry with that of its own. -/
theorem category_eq_of_mem_insertOrdered (r : Registry) {info other : CodeInfo}
    (h : Category.ofCode? info.code = some info.category)
    (hother : other ∈ insertOrdered (compareOn CodeInfo.code) info r.infos) :
    Category.ofCode? other.code = some other.category := by
  rcases mem_of_mem_insertOrdered hother with rfl | hother
  · exact h
  · exact r.category_eq other hother

/-- Puts an entry in, over that of the same code. -/
def insert (r : Registry) (info : CodeInfo) (h : Category.ofCode? info.code = some info.category) :
    Registry where
  infos := insertOrdered (compareOn CodeInfo.code) info r.infos
  ascends := ascends_insertOrdered info r.ascends
  category_eq _ := r.category_eq_of_mem_insertOrdered h

/-- Takes up a code, or replaces its description. There is no result if the code belongs to no
category. -/
def register? (r : Registry) (code description : String) : Option Registry :=
  match h : Category.ofCode? code with
  | some category => some (r.insert ⟨code, category, description⟩ h)
  | none => none

/-- A code of a category is taken up with that category. -/
theorem register?_of_some (r : Registry) {code : String} {category : Category}
    (h : Category.ofCode? code = some category) (description : String) :
    r.register? code description = some (r.insert ⟨code, category, description⟩ h) := by
  rw [register?]
  split
  case h_1 category' h' =>
    obtain rfl : category = category' := Option.some.inj (h.symm.trans h')
    rfl
  case h_2 h' => cases h.symm.trans h'

/-- Other codes are refused. -/
theorem register?_of_none (r : Registry) {code : String} (h : Category.ofCode? code = none)
    (description : String) : r.register? code description = none := by
  rw [register?]
  split
  case h_1 h' => cases h.symm.trans h'
  case h_2 => rfl

/-- Takes up a code if it belongs to a category. -/
def register (r : Registry) (code description : String) : Registry :=
  (r.register? code description).getD r

/-- What is known about a code. -/
def get? (r : Registry) (code : String) : Option CodeInfo :=
  r.infos.find? fun info ↦ info.code = code

/-- The codes of a category, in ascending order. -/
def inCategory (r : Registry) (category : Category) : List CodeInfo :=
  r.infos.filter fun info ↦ info.category = category

/-- Takes up codes one after the other, each with its description. -/
def registerAll (r : Registry) (codes : List (String × String)) : Registry :=
  codes.foldl (fun r e ↦ r.register e.1 e.2) r

/-- The codes of type errors, with their descriptions. -/
def standardCodes : List (String × String) :=
  [("E0001", "type mismatch"),
   ("E0002", "unsupported operand types"),
   ("E0003", "non-boolean condition"),
   ("E0004", "call signature mismatch"),
   ("E1001", "unresolved name"),
   ("E1002", "unresolved attribute"),
   ("E3001", "structural rule violated"),
   ("E9001", "internal checker error")]

/-- The registry of type errors. -/
def standard : Registry := empty.registerAll standardCodes

end Registry

end NominalCheck
