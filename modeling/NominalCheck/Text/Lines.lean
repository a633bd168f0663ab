/-!
# The lines of a text

A line ends with a line feed, and a carriage return right before the line feed belongs to the
ending. A carriage return anywhere else is an ordinary character. A text that ends with a line feed
has no further, empty line after it, and the empty text has no lines.
-/

namespace NominalCheck

/-- The lines of a text given by its characters, without their endings. -/
def splitLines : List Char → List (List Char)
  | [] => []
  | '\n' :: cs => [] :: splitLines cs
  | '\r' :: '\n' :: cs => [] :: splitLines cs
  | c :: cs =>
    match splitLines cs with
    | [] => [[c]]
    | line :: lines => (c :: line) :: lines

@[simp] theorem splitLines_nil : splitLines [] = [] := rfl

@[simp] theorem splitLines_lf (cs : List Char) : splitLines ('\n' :: cs) = [] :: splitLines cs := by
  rw [splitLines]

@[simp] theorem splitLines_crlf (cs : List Char) :
    splitLines ('\r' :: '\n' :: cs) = [] :: splitLines cs := by
  rw [splitLines]

/-- Only the empty text has no lines. -/
theorem splitLines_eq_nil_iff {cs : List Char} : splitLines cs = [] ↔ cs = [] := by
  fun_cases splitLines cs <;> simp_all

end NominalCheck
