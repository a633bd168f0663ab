import NominalCheck.Diagnostic.Basic
import NominalCheck.TypeError

/-!
# Diagnostics of type errors

How a type error is told to a person. The headline names the kind of fault, the label at the place
of the fault gives the details, and an unknown name comes with what is known about names close to
it: a single one becomes a suggestion with an edit, several are listed in a help.
-/

namespace NominalCheck

namespace Fault

/-- The headline of a fault's diagnostic. -/
def headline : Fault → String
  | mismatch .. => "type mismatch"
  | nonBoolCondition .. => "non-boolean condition"
  | unsupportedOperands symbol _ => "unsupported operand type(s) for " ++ quoted symbol
  | signature _ => "call signature mismatch"
  | fault => fault.message

/-- The remark at the place of a fault. -/
def labelText : Fault → String
  | mismatch expected found =>
    "expected " ++ quoted expected.text ++ ", found " ++ quoted found.text
  | undefinedName .. => "not found in this scope"
  | undefinedMember _ member => "unknown attribute " ++ quoted member
  | nonBoolCondition found => "expected " ++ quoted Ty.bool.text ++ ", found " ++ quoted found.text
  | structural _ => ""
  | unsupportedOperands _ operands => "applied to " ++ operandList operands
  | signature fault => fault.message
  | internal _ => ""

/-- The suggestions on a fault at the given place: a single similar name is proposed. -/
def suggestions (span : SourceSpan) : Fault → List Suggestion
  | undefinedName _ [only] =>
    [⟨"using " ++ quoted only, .maybeIncorrect, [⟨span, only⟩]⟩]
  | _ => []

/-- The remarks attached to a fault. -/
def remarks : Fault → List Diagnostic
  | undefinedName _ [] => [.bare .note none "names must be declared or assigned before use"]
  | undefinedName _ [_] => []
  | undefinedName _ many =>
    [.bare .help none ("did you mean one of " ++ ", ".intercalate (many.map quoted) ++ "?")]
  | undefinedMember owner _ =>
    [.bare .note none
      ("attributes are looked up on " ++ quoted owner ++ " only; there is no inheritance")]
  | _ => []

end Fault

/-- The diagnostic of a type error in the given file. -/
def TypeError.toDiagnostic (e : TypeError) (file : String) : Diagnostic :=
  let span : SourceSpan := ⟨e.span, file⟩
  { severity := .error
    code := some e.fault.code
    message := e.fault.headline
    labels := [⟨span, e.fault.labelText⟩]
    suggestions := e.fault.suggestions span
    children := e.fault.remarks }

end NominalCheck
