import NominalCheck.Text.CharWidth
import NominalCheck.Text.Pictograph

/-!
# Ligatures

In some scripts certain letters that follow each other are drawn as one. A text is measured from its
end to its start, so a ligature is recognised by its **last** part, and a part is what has been seen
of it so far.

The ligatures are:

* Arabic: a lam and an alef, whatever marks are drawn over the lam;
* Hebrew: an alef, a joiner and a lamed;
* Khmer: the sign that makes the letter after it a subscript, which then takes no column;
* Buginese: the letter a with the vowel i, a joiner and a ya;
* Tifinagh: two consonants with the consonant joiner or a joiner between them;
* Lisu: two tone letters, the second of which is one of two;
* Old Turkic: the letter for the sound ch, a joiner and an i.

The Arabic ligature has rules of its own about what may stand inside it. The others may have
joiners and ignored marks anywhere inside.
-/

namespace NominalCheck

/-! ### Arabic -/

/-- The forms of the letter lam. -/
def lamRanges : List (Nat × Nat) :=
  [(0x0644, 0x0644), (0x06B5, 0x06B8), (0x076A, 0x076A), (0x08A6, 0x08A6), (0x08C7, 0x08C7)]

/-- The forms of the letter alef. -/
def alefRanges : List (Nat × Nat) :=
  [(0x0622, 0x0623), (0x0625, 0x0625), (0x0627, 0x0627), (0x0671, 0x0673), (0x0675, 0x0675),
   (0x0773, 0x0774), (0x0870, 0x0882)]

/-- The characters without a width that keep letters around them from joining. -/
def separatingRanges : List (Nat × Nat) :=
  [(0x0605, 0x0605), (0x0890, 0x0891), (0x08E2, 0x08E2), (0x09BE, 0x09BE), (0x09D7, 0x09D7),
   (0x0B3E, 0x0B3E), (0x0B57, 0x0B57), (0x0BBE, 0x0BBE), (0x0BD7, 0x0BD7), (0x0CC0, 0x0CC0),
   (0x0CC2, 0x0CC2), (0x0CC7, 0x0CC8), (0x0CCA, 0x0CCB), (0x0CD5, 0x0CD6), (0x0D3E, 0x0D3E),
   (0x0D4E, 0x0D4E), (0x0D57, 0x0D57), (0x0DCF, 0x0DCF), (0x0DDF, 0x0DDF), (0x1160, 0x11FF),
   (0x180E, 0x180E), (0x1B35, 0x1B35), (0x1B3B, 0x1B3B), (0x1B3D, 0x1B3D), (0x1B43, 0x1B43),
   (0x200C, 0x200D), (0x2065, 0x2069), (0x302E, 0x302F), (0x3164, 0x3164), (0xA8FA, 0xA8FA),
   (0xD7B0, 0xD7C6), (0xD7CB, 0xD7FB), (0xFF9E, 0xFFA0), (0xFFF0, 0xFFF8), (0x111C2, 0x111C3),
   (0x1133E, 0x1133E), (0x11357, 0x11357), (0x114B0, 0x114B0), (0x114BD, 0x114BD),
   (0x115AF, 0x115AF), (0x11930, 0x11930), (0x1193F, 0x1193F), (0x11941, 0x11941),
   (0x11A3A, 0x11A3A), (0x11A84, 0x11A89), (0x11D46, 0x11D46), (0x11F02, 0x11F02),
   (0x1D165, 0x1D165), (0x1D16E, 0x1D172), (0xE0000, 0xE0000), (0xE0002, 0xE001F),
   (0xE0080, 0xE00FF), (0xE01F0, 0xE0FFF)]

/-- Whether the character is a form of the letter lam. -/
def isLam (c : Char) : Bool := inRanges c.toNat lamRanges

/-- Whether the character is a form of the letter alef. -/
def isAlef (c : Char) : Bool := inRanges c.toNat alefRanges

/-- Whether Arabic letters join across the character. -/
def isJoiningTransparent (c : Char) : Bool :=
  charWidth c == 0 && !inRanges c.toNat separatingRanges

/-! ### The other scripts -/

/-- The marks that are ignored inside a ligature. -/
def ignoredMarkRanges : List (Nat × Nat) :=
  [(0x034F, 0x034F), (0x17B4, 0x17B5), (0x180B, 0x180D), (0x180F, 0x180F), (0xFE00, 0xFE0F),
   (0xE0100, 0xE01EF)]

/-- The Khmer letters whose subscript stands below the letter before it. -/
def subscriptRanges : List (Nat × Nat) :=
  [(0x1780, 0x1782), (0x1784, 0x1787), (0x1789, 0x178C), (0x178E, 0x1793), (0x1795, 0x1798),
   (0x179B, 0x179D), (0x17A0, 0x17A0), (0x17A2, 0x17A2), (0x17A7, 0x17A7), (0x17AB, 0x17AC),
   (0x17AF, 0x17AF)]

/-- The Tifinagh consonants. -/
def tifinaghRanges : List (Nat × Nat) :=
  [(0x2D31, 0x2D65), (0x2D6F, 0x2D6F)]

/-- Whether the character is a mark that is ignored inside a ligature. -/
def isIgnoredMark (c : Char) : Bool := inRanges c.toNat ignoredMarkRanges

/-- Whether the character is a Tifinagh consonant. -/
def isTifinagh (c : Char) : Bool := inRanges c.toNat tifinaghRanges

/-- What has been seen of a ligature, from its end. -/
inductive LigaturePart where
  /-- A Hebrew lamed. -/
  | lamed
  /-- A Khmer letter that can be a subscript. -/
  | subscript
  /-- A Buginese ya. -/
  | ya
  /-- A Buginese vowel i, a joiner and a ya. -/
  | vowelYa
  /-- A Tifinagh consonant. -/
  | tifinagh
  /-- A Tifinagh consonant joiner and a consonant. -/
  | joinedTifinagh
  /-- A Lisu tone letter. -/
  | lisuTone
  /-- An Old Turkic i. -/
  | orkhonI
deriving DecidableEq, Repr, Inhabited

namespace LigaturePart

/-- The part that a character is by itself. -/
def ofChar? (c : Char) : Option LigaturePart :=
  if c.toNat = 0x05DC then some lamed
  else if inRanges c.toNat subscriptRanges then some subscript
  else if c.toNat = 0x1A10 then some ya
  else if isTifinagh c then some tifinagh
  else if isBetween 0xA4FC 0xA4FD c then some lisuTone
  else if c.toNat = 0x10C03 then some orkhonI
  else none

/-- What a character in front of a part comes to: the columns that it adds, and the larger part, if
the ligature is not complete. `afterJoiner` tells whether a joiner is between the two. A negative
number of columns takes back what the part was counted for. -/
def extend? (part : LigaturePart) (afterJoiner : Bool) (c : Char) :
    Option (Int × Option LigaturePart) :=
  match part with
  | lamed => if afterJoiner && c.toNat == 0x05D0 then some (0, none) else none
  | subscript => if c.toNat == 0x17D2 then some (-1, none) else none
  | ya => if afterJoiner && c.toNat == 0x1A17 then some (0, some vowelYa) else none
  | vowelYa => if c.toNat == 0x1A15 then some (0, none) else none
  | tifinagh =>
    if c.toNat == 0x2D7F then some (1, some joinedTifinagh)
    else if afterJoiner && isTifinagh c then some (0, none)
    else none
  | joinedTifinagh => if isTifinagh c then some (-1, none) else none
  | lisuTone => if isBetween 0xA4F8 0xA4FB c then some (0, none) else none
  | orkhonI => if afterJoiner && c.toNat == 0x10C32 then some (0, none) else none

end LigaturePart

end NominalCheck
