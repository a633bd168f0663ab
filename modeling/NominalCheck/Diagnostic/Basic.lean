import NominalCheck.Source.Resolve

/-!
# Diagnostics

A `Diagnostic` is a message for a person: how serious it is, what it says, which places it points
to, and what could be done about it. It knows nothing of where or how it will be shown.
-/

namespace NominalCheck

/-- How serious a message is. -/
inductive Severity where
  | error
  | warning
  | note
  | help
deriving DecidableEq, Repr

/-- A message is an error unless it says otherwise. -/
instance : Inhabited Severity := ⟨.error⟩

namespace Severity

/-- The word that introduces a message. -/
def word : Severity → String
  | error => "error"
  | warning => "warning"
  | note => "note"
  | help => "help"

/-- The character that underlines the places of a message. -/
def marker : Severity → Char
  | error => '^'
  | warning => '~'
  | note => '-'
  | help => '+'

/-- Whether a program with such a message cannot be used. -/
def blocks (s : Severity) : Bool := s = .error

end Severity

/-- A place with a remark on it. -/
structure Label where
  /-- The place. -/
  span : SourceSpan
  /-- The remark, which may be empty. -/
  message : String
deriving DecidableEq, Repr, Inhabited

/-- How certain it is that a suggestion is right. -/
inductive Applicability where
  /-- It can be applied without a look at it. -/
  | machineApplicable
  /-- It is plausible. -/
  | maybeIncorrect
deriving DecidableEq, Repr

/-- A suggestion is only plausible unless it says otherwise. -/
instance : Inhabited Applicability := ⟨.maybeIncorrect⟩

/-- The words that introduce a suggestion. -/
def Applicability.opening : Applicability → String
  | machineApplicable => ""
  | maybeIncorrect => "consider "

/-- The replacement of a range of a file by a new text. -/
structure Edit where
  /-- The range to replace. -/
  span : SourceSpan
  /-- What to put in its place. -/
  newText : String
deriving DecidableEq, Repr, Inhabited

/-- A proposal to change the program. -/
structure Suggestion where
  /-- What is proposed. -/
  message : String
  /-- How certain it is to be right. -/
  applicability : Applicability
  /-- The edits that carry it out. -/
  edits : List Edit
deriving DecidableEq, Repr, Inhabited

/-- The proposal as it is shown. -/
def Suggestion.fullMessage (s : Suggestion) : String := s.applicability.opening ++ s.message

/-- A message, with the places that it points to and the remarks attached to it. -/
structure Diagnostic where
  /-- How serious it is. -/
  severity : Severity
  /-- The code of its kind. -/
  code : Option String
  /-- What it says. -/
  message : String
  /-- The places that it points to. -/
  labels : List Label
  /-- What could be done about it. -/
  suggestions : List Suggestion
  /-- The remarks attached to it. -/
  children : List Diagnostic
deriving Inhabited

namespace Diagnostic

/-- A message that points nowhere and has nothing attached. -/
def bare (severity : Severity) (code : Option String) (message : String) : Diagnostic where
  severity := severity
  code := code
  message := message
  labels := []
  suggestions := []
  children := []

/-- The place that a message is about, which is that of its first label. -/
def primary? (d : Diagnostic) : Option SourceSpan := d.labels.head?.map Label.span

/-- Whether the message points anywhere. -/
def hasSpans (d : Diagnostic) : Bool := !d.labels.isEmpty

/-- Whether something is proposed. -/
def hasSuggestions (d : Diagnostic) : Bool := !d.suggestions.isEmpty

/-- The address of the documentation of the message's code. -/
def docsUrl? (d : Diagnostic) (base : String) : Option String :=
  d.code.map fun code ↦ base ++ "/" ++ code

end Diagnostic

end NominalCheck
