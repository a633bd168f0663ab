import NominalCheck.Ty

/-!
# Operators

The binary and unary operators, the symbols by which messages name them, and the rule that gives
the type of their result. An operator has a result only for the operand types that its rule lists;
there is no overloading beyond that and no coercion of operands.
-/

namespace NominalCheck

/-- The operators with two operands. -/
inductive BinaryOp where
  | add | sub | mul | floorDiv | mod
  | eq | ne
  | le | ge | lt | gt
  | and | or
  | is
deriving DecidableEq, Repr, Inhabited

/-- The operators with one operand. -/
inductive UnaryOp where
  | neg | not
deriving DecidableEq, Repr, Inhabited

namespace BinaryOp

/-- How the operator is written. -/
def symbol : BinaryOp → String
  | add => "+"
  | sub => "-"
  | mul => "*"
  | floorDiv => "//"
  | mod => "%"
  | eq => "=="
  | ne => "!="
  | le => "<="
  | ge => ">="
  | lt => "<"
  | gt => ">"
  | and => "and"
  | or => "or"
  | is => "is"

/-- The type of the result for operands of the given types. Arithmetic and ordering take integers,
the connectives truth values, equality any two operands of one type, and identity anything that is
`None` or an object. -/
def result? (op : BinaryOp) (left right : Ty) : Option Ty :=
  match op with
  | add | sub | mul | floorDiv | mod =>
    if left = .int ∧ right = .int then some .int else none
  | eq | ne => if left = right then some .bool else none
  | le | ge | lt | gt => if left = .int ∧ right = .int then some .bool else none
  | and | or => if left = .bool ∧ right = .bool then some .bool else none
  | is => if left.isReference ∧ right.isReference then some .bool else none

end BinaryOp

namespace UnaryOp

/-- How the operator is written. -/
def symbol : UnaryOp → String
  | neg => "-"
  | not => "not"

/-- The type of the result for an operand of the given type. -/
def result? : UnaryOp → Ty → Option Ty
  | neg, .int => some .int
  | not, .bool => some .bool
  | _, _ => none

end UnaryOp

end NominalCheck
