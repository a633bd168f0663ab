/-!
# Positions in a text

Spans count bytes; people count lines and columns. `positionAt text offset` is the line and column
at a byte offset, both counted from one, columns in characters. It is found by reading the
characters that **start** before the offset, so an offset inside the encoding of a character has the
position after that character, and an offset past the end has the position of the end.
-/

namespace NominalCheck

/-- A line and a column, both counted from one. -/
structure Position where
  /-- The line. -/
  line : Nat
  /-- The column, in characters. -/
  column : Nat
deriving DecidableEq, Repr, Inhabited

namespace Position

/-- The position of the first character of a text. -/
def first : Position := ⟨1, 1⟩

/-- The position after a character: a line feed starts a new line. -/
def advance (p : Position) (c : Char) : Position :=
  if c = '\n' then ⟨p.line + 1, 1⟩ else ⟨p.line, p.column + 1⟩

@[simp] theorem advance_lf (p : Position) : p.advance '\n' = ⟨p.line + 1, 1⟩ := rfl

theorem advance_of_ne {p : Position} {c : Char} (h : c ≠ '\n') :
    p.advance c = ⟨p.line, p.column + 1⟩ := if_neg h

end Position

/-- The characters whose encoding starts before the byte offset. -/
def charsBefore : List Char → (offset : Nat) → List Char
  | [], _ => []
  | _ :: _, 0 => []
  | c :: cs, n + 1 => c :: charsBefore cs (n + 1 - c.utf8Size)

@[simp] theorem charsBefore_nil (offset : Nat) : charsBefore [] offset = [] := by
  cases offset <;> rfl

@[simp] theorem charsBefore_zero (cs : List Char) : charsBefore cs 0 = [] := by
  cases cs <;> rfl

/-- A character lies before every offset after its start, also before one inside of it. -/
theorem charsBefore_cons_of_pos (c : Char) (cs : List Char) {offset : Nat} (h : 0 < offset) :
    charsBefore (c :: cs) offset = c :: charsBefore cs (offset - c.utf8Size) := by
  obtain ⟨n, rfl⟩ := Nat.exists_eq_add_one_of_ne_zero (Nat.pos_iff_ne_zero.1 h)
  rfl

/-- The position at a byte offset. -/
def positionAt (text : String) (offset : Nat) : Position :=
  (charsBefore text.toList offset).foldl Position.advance .first

end NominalCheck
