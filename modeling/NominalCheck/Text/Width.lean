import NominalCheck.Text.Ligature

/-!
# Display width

How many columns a text takes on a terminal. In general each character adds what it takes when it
stands alone, but the parts of a pictograph are shown as **one picture of two columns**, and the
parts of a ligature as one letter.

## Method

A text is measured from its end to its start. The `Context` records what has been read of a
pictograph or a ligature so far; a character either extends that, or stands alone and starts anew.

The width of a text that is cut off is therefore not the width of the text less that of the rest:
a part of a picture that has lost its neighbours stands alone. `displayWidth_eq_columns` says when
widths do add up.
-/

namespace NominalCheck

namespace Width

/-! ### Contexts -/

/-- What stands after a character, variation selectors apart, as far as the character can be drawn
together with it. -/
inductive Tail where
  /-- Nothing that matters. -/
  | blank
  /-- An Arabic alef. -/
  | alef
  /-- A part of a ligature; `afterJoiner` tells whether there is a joiner before it. -/
  | ligature (part : LigaturePart) (afterJoiner : Bool)
  /-- A modifier. -/
  | modifier
  /-- A flag letter, or more than one. -/
  | flagLetters (several : Bool)
  /-- A pictograph. -/
  | pictograph
  /-- A joiner and a pictograph. -/
  | joined
  /-- A keycap, a joiner and a pictograph. -/
  | joinedKeycap
  /-- One flag letter, a joiner and a pictograph. -/
  | joinedFlagLetter
  /-- More than one flag letter, a joiner and a pictograph; `even` tells whether the letters come in
  pairs. -/
  | joinedFlagLetters (even : Bool)
  /-- Tags with so many digits and after them so many letters, the closing tag, a joiner and a
  pictograph. -/
  | joinedTags (digits letters : Nat)
deriving DecidableEq, Repr, Inhabited

/-- The forms that a variation selector asks for. -/
inductive Form where
  | plain
  | colour
deriving DecidableEq, Repr, Inhabited

/-- What stands after a character. -/
structure Context where
  /-- What comes after the variation selector, if there is one. -/
  tail : Tail
  /-- The form that a variation selector right after the character asks for. -/
  form : Option Form
deriving DecidableEq, Repr, Inhabited

/-- What a character comes to: the columns that it adds, and the context of the character before
it. -/
abbrev Advance : Type := Int × Context

/-- The context that consists of a tail only. -/
def Tail.bare (tail : Tail) : Context := ⟨tail, none⟩

namespace Tail

/-- What a character leaves to the one before it when it stands alone. -/
def ofChar (c : Char) : Tail :=
  if isAlef c then alef
  else match LigaturePart.ofChar? c with
    | some part => ligature part false
    | none =>
      if isFlagLetter c then flagLetters false
      else if isModifier c then modifier
      else if isPictograph c then pictograph
      else blank

/-- What is left of a tail when a selector stands before it that selects nothing. Ligatures go on
around it. -/
def aroundSelector : Tail → Tail
  | alef => alef
  | ligature part afterJoiner => ligature part afterJoiner
  | _ => blank

/-- What is left of a tail when the selector of the colourful form stands before it. A joined
pictograph goes on, too. -/
def afterColour : Tail → Tail
  | joined => joined
  | joinedKeycap => joinedKeycap
  | tail => tail.aroundSelector

/-- The columns of a character in its colourful form: two, or none if it is joined to a
pictograph. -/
def colourWidth : Tail → Int
  | joined | joinedKeycap => 0
  | _ => 2

/-- What a character before a joined pictograph comes to. -/
def extendJoined? (c : Char) : Option (Int × Tail) :=
  if c.toNat = keycap then some (0, joinedKeycap)
  else if isFlagLetter c then some (1, joinedFlagLetter)
  else if isModifier c then some (0, modifier)
  else if c.toNat = closingTag then some (0, joinedTags 0 0)
  else if isPictograph c then some (0, pictograph)
  else none

/-- What a character before tags comes to. A region is named by two letters or three digits and has
up to four more letters. -/
def extendTags? (digits letters : Nat) (c : Char) : Option (Int × Tail) :=
  if isTagLetter c && digits == 0 && letters < 6 then some (0, joinedTags 0 (letters + 1))
  else if isTagDigit c && digits < 3 && letters < 5 then some (0, joinedTags (digits + 1) letters)
  else if c.toNat == blackFlag && (digits == 3 || digits == 0 && 3 ≤ letters) then
    some (0, pictograph)
  else none

/-- What a character comes to that is drawn together with the tail after it. -/
def extend? (c : Char) : Tail → Option (Int × Tail)
  | blank => none
  | alef =>
    if isLam c then some (0, blank)
    else if isJoiningTransparent c then some (0, alef)
    else none
  | ligature part afterJoiner =>
    if c.toNat = joiner then some (0, ligature part true)
    else if isIgnoredMark c then some (0, ligature part afterJoiner)
    else (part.extend? afterJoiner c).map fun e ↦ (e.1, (e.2.map (ligature · false)).getD blank)
  | modifier =>
    if isModifiable c then some (0, pictograph)
    else if c.toNat = joiner then some (0, joined)
    else none
  | flagLetters several =>
    if isFlagLetter c then some (1, flagLetters true)
    else if several && c.toNat == joiner then some (0, joined)
    else none
  | pictograph => if c.toNat = joiner then some (0, joined) else none
  | joined => extendJoined? c
  | joinedKeycap => none
  | joinedFlagLetter => if isFlagLetter c then some (-1, joinedFlagLetters true) else none
  | joinedFlagLetters even =>
    if isFlagLetter c then some (if even then 3 else -1, joinedFlagLetters !even)
    else if c.toNat = joiner then some (0, joined)
    else none
  | joinedTags digits letters => extendTags? digits letters c

/-- What a character comes to that has no selector between it and the tail after it. -/
def advance (tail : Tail) (c : Char) : Advance :=
  if c.toNat = colourSelector then (0, ⟨tail.afterColour, some .colour⟩)
  else if c.toNat = plainSelector then (0, ⟨tail.aroundSelector, some .plain⟩)
  else match tail.extend? c with
    | some (columns, tail') => (columns, tail'.bare)
    | none => (charWidth c, (ofChar c).bare)

end Tail

namespace Context

/-- The context of the last character of a text. -/
def atEnd : Context := Tail.blank.bare

/-- What a character comes to. A selector acts on the character right before it, if that has the
form in question. -/
def advance (ctx : Context) (c : Char) : Advance :=
  match ctx.form with
  | none => ctx.tail.advance c
  | some .plain => if hasNarrowVariant c then (1, atEnd) else ctx.tail.advance c
  | some .colour =>
    if hasVariants c then (ctx.tail.colourWidth, Tail.pictograph.bare)
    else ctx.tail.aroundSelector.advance c

end Context

/-- The columns of a text, and the context for a character before it. -/
def ofText : List Char → Advance
  | [] => (0, .atEnd)
  | c :: cs =>
    let rest := ofText cs
    let next := rest.2.advance c
    (rest.1 + next.1, next.2)

end Width

/-- The columns that a text takes. -/
def displayWidth (cs : List Char) : Nat := (Width.ofText cs).1.toNat

@[simp] theorem displayWidth_nil : displayWidth [] = 0 := rfl

/-! ### Texts without pictographs and ligatures -/

/-- The character is neither a selector nor the end of a pictograph or ligature, so that no
character before it is drawn together with it. -/
def StandsAlone (c : Char) : Prop :=
  Width.Tail.ofChar c = .blank ∧ c.toNat ≠ colourSelector ∧ c.toNat ≠ plainSelector

instance (c : Char) : Decidable (StandsAlone c) := inferInstanceAs (Decidable (_ ∧ _ ∧ _))

/-- The columns of the characters of a text together, each by itself. -/
def columns : List Char → Nat
  | [] => 0
  | c :: cs => charWidth c + columns cs

@[simp] theorem columns_nil : columns [] = 0 := rfl

@[simp] theorem columns_cons (c : Char) (cs : List Char) :
    columns (c :: cs) = charWidth c + columns cs := rfl

@[simp] theorem columns_append (s t : List Char) : columns (s ++ t) = columns s + columns t := by
  induction s with
  | nil => simp
  | cons c s ih => simp [ih, Nat.add_assoc]

namespace Width

/-- A character that stands alone adds its own width, whatever comes before it. -/
theorem advance_atEnd {c : Char} (h : StandsAlone c) :
    Context.atEnd.advance c = ((charWidth c : Int), .atEnd) := by
  obtain ⟨htail, hcolour, hplain⟩ := h
  show Tail.blank.advance c = _
  rw [Tail.advance, if_neg hcolour, if_neg hplain, Tail.extend?]
  show ((charWidth c : Int), (Tail.ofChar c).bare) = _
  rw [htail]
  rfl

/-- So a text of such characters has the sum of their widths. -/
theorem ofText_of_standsAlone {cs : List Char} (h : ∀ c ∈ cs, StandsAlone c) :
    ofText cs = ((columns cs : Int), .atEnd) := by
  induction cs with
  | nil => rfl
  | cons c cs ih =>
    have hrest := ih fun d hd ↦ h d (List.mem_cons_of_mem _ hd)
    have hc := advance_atEnd (h c List.mem_cons_self)
    simp only [ofText, hrest, hc, columns_cons, Prod.mk.injEq, and_true]
    omega

end Width

/-- A text without pictographs and ligatures takes the columns of its characters together. -/
theorem displayWidth_eq_columns {cs : List Char} (h : ∀ c ∈ cs, StandsAlone c) :
    displayWidth cs = columns cs := by
  rw [displayWidth, Width.ofText_of_standsAlone h]
  exact Int.toNat_natCast _

end NominalCheck
