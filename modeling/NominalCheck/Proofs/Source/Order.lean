import Mathlib.Data.Prod.Lex
import Mathlib.Order.Monotone.Defs
import NominalCheck.Proofs.Source.Extents

/-!
# Positions in the order of offsets

Positions are ordered as a text is read: by lines, and on one line by columns. Every character moves the
position **on** in this order (`Position.lt_advance`), a line feed by taking it to the next line, so the
position after a text comes after that of each shorter beginning of it.

An offset enters only through the characters that start before it. A greater offset has the same ones and
possibly more, so positions do not decrease; from one boundary of characters to a later one there **are**
more, so between boundaries positions increase. Inside a character they stand still, and so they do past
the end of the text.

At a boundary nothing is lost. The position counts line feeds and then characters, and counting them off
from the beginning of the text leads back to the offset (`Position.locates_positionAfter`).
-/

namespace NominalCheck

open String (utf8Len)

/-! ### The order of positions -/

namespace Position

/-- The line and then the column. -/
def key (p : Position) : ℕ ×ₗ ℕ := toLex (p.line, p.column)

theorem key_injective : Function.Injective key := by
  intro ⟨line, column⟩ ⟨line', column'⟩ h
  obtain ⟨rfl, rfl⟩ := Prod.mk.inj (toLex_inj.1 h)
  rfl

/-- Positions are ordered by their lines, and on one line by their columns. -/
instance : LinearOrder Position := LinearOrder.lift' key key_injective

/-- Positions are ordered by their lines and, on one line, by their columns. -/
theorem lt_iff {p q : Position} :
    p < q ↔ p.line < q.line ∨ p.line = q.line ∧ p.column < q.column :=
  Prod.Lex.toLex_lt_toLex

/-- **One character leads to a later position**: to the next column, or to the next line. -/
theorem lt_advance (p : Position) (c : Char) : p < p.advance c := by
  rw [lt_iff]
  by_cases hc : c = '\n'
  · subst hc
    exact Or.inl (Nat.lt_succ_self _)
  · rw [advance_of_ne hc]
    exact Or.inr ⟨rfl, Nat.lt_succ_self _⟩

theorem le_foldl_advance (p : Position) (cs : List Char) : p ≤ cs.foldl advance p := by
  induction cs generalizing p with
  | nil => exact le_refl p
  | cons c cs ih => exact (p.lt_advance c).le.trans (ih (p.advance c))

theorem lt_foldl_advance (p : Position) {cs : List Char} (h : cs ≠ []) : p < cs.foldl advance p := by
  obtain ⟨c, rest, rfl⟩ := List.exists_cons_of_ne_nil h
  exact (p.lt_advance c).trans_le (le_foldl_advance _ rest)

end Position

/-- A longer part of the text ends at no earlier position. -/
theorem positionAfter_le_of_isPrefix {u v : List Char} (h : u <+: v) :
    positionAfter u ≤ positionAfter v := by
  obtain ⟨w, rfl⟩ := h
  rw [positionAfter_append]
  exact Position.le_foldl_advance _ w

/-- And if it is really longer, at a later one. -/
theorem positionAfter_lt_of_isPrefix {u v : List Char} (h : u <+: v) (hne : u ≠ v) :
    positionAfter u < positionAfter v := by
  obtain ⟨w, rfl⟩ := h
  rw [positionAfter_append]
  exact Position.lt_foldl_advance _ fun hw ↦ hne (hw ▸ (List.append_nil u).symm)

/-! ### Offsets between, inside and after the characters -/

/-- At a boundary the characters before it have as many bytes as the offset says. -/
theorem utf8Len_charsBefore {text : String} {offset : Nat}
    (h : String.Pos.Raw.IsValid text ⟨offset⟩) : utf8Len (charsBefore text.toList offset) = offset := by
  obtain ⟨u, v, htext, rfl⟩ := exists_split_of_isValid h
  rw [htext, charsBefore_append]

/-- Inside a character, and at its end, that character is the last one. -/
theorem charsBefore_of_inside {u : List Char} {c : Char} {offset : Nat} (hlt : utf8Len u < offset)
    (hle : offset ≤ utf8Len u + c.utf8Size) (v : List Char) :
    charsBefore (u ++ c :: v) offset = u ++ [c] := by
  have hrest : offset - utf8Len u - c.utf8Size = 0 := by omega
  rw [charsBefore_append_of_lt hlt, charsBefore_cons_of_pos c v (by omega), hrest, charsBefore_zero]

theorem charsBefore_of_utf8Len_le {cs : List Char} {offset : Nat} (h : utf8Len cs ≤ offset) :
    charsBefore cs offset = cs := by
  rcases h.eq_or_lt with rfl | hlt
  · simpa using charsBefore_append cs []
  · simpa using charsBefore_append_of_lt hlt []

/-- Later offsets have no earlier positions. -/
theorem positionAt_mono (text : String) : Monotone (positionAt text) := by
  intro o o' h
  exact positionAfter_le_of_isPrefix (charsBefore_isPrefix_of_le h text.toList)

/-- Between characters, later offsets have later positions. -/
theorem positionAt_strictMonoOn (text : String) :
    StrictMonoOn (positionAt text) {offset | String.Pos.Raw.IsValid text ⟨offset⟩} := by
  intro o ho o' ho' hlt
  refine positionAfter_lt_of_isPrefix (charsBefore_isPrefix_of_le hlt.le text.toList) fun heq ↦ ?_
  have hsame : o = o' := by
    rw [← utf8Len_charsBefore ho, heq, utf8Len_charsBefore ho']
  omega

/-- An offset inside a character has the position **after** it. -/
theorem positionAt_of_inside {text : String} {u v : List Char} {c : Char} {offset : Nat}
    (htext : text.toList = u ++ c :: v) (hlt : utf8Len u < offset)
    (hlt' : offset < utf8Len u + c.utf8Size) :
    positionAt text offset = positionAt text (utf8Len u + c.utf8Size) := by
  have hstop : utf8Len u < utf8Len u + c.utf8Size := by omega
  rw [positionAt_eq, positionAt_eq, htext, charsBefore_of_inside hlt hlt'.le,
    charsBefore_of_inside hstop le_rfl]

/-- And one past the end has the position of the end. -/
theorem positionAt_of_utf8ByteSize_le {text : String} {offset : Nat}
    (h : text.utf8ByteSize ≤ offset) :
    positionAt text offset = positionAt text text.utf8ByteSize := by
  rw [← String.utf8Len_toList] at h ⊢
  rw [positionAt_eq, positionAt_eq, charsBefore_of_utf8Len_le h, charsBefore_of_utf8Len_le le_rfl]

/-! ### From positions back to offsets -/

/-- The text up to its `n`-th line feed, which is included. -/
def throughLineFeed : Nat → List Char → List Char
  | 0, _ => []
  | _ + 1, [] => []
  | n + 1, c :: cs => c :: throughLineFeed (if c = '\n' then n else n + 1) cs

namespace Position

/-- The text of the lines before that of the position. -/
def linesBefore (p : Position) (cs : List Char) : List Char := throughLineFeed (p.line - 1) cs

/-- The characters that come next, as many as there are columns before that of the position. -/
def columnsBefore (p : Position) (cs : List Char) : List Char :=
  (cs.drop (p.linesBefore cs).length).take (p.column - 1)

/-- Counting off line feeds and then characters as the position says leads to the offset. There are enough
of both, and the characters are all on the line of the position. -/
structure Locates (p : Position) (cs : List Char) (offset : Nat) : Prop where
  /-- There are as many line feeds before the line as its number says. -/
  count_linesBefore : (p.linesBefore cs).count '\n' = p.line - 1
  /-- There are as many characters before the column as its number says. -/
  length_columnsBefore : (p.columnsBefore cs).length = p.column - 1
  /-- They are all on the line. -/
  lf_notMem_columnsBefore : '\n' ∉ p.columnsBefore cs
  /-- Both together take up the bytes before the offset. -/
  offset_eq : offset = utf8Len (p.linesBefore cs) + utf8Len (p.columnsBefore cs)

end Position

/-- A line and its line feed are taken together. -/
theorem throughLineFeed_append_lf {p : List Char} (hp : '\n' ∉ p) (n : Nat) (cs : List Char) :
    throughLineFeed (n + 1) (p ++ '\n' :: cs) = p ++ '\n' :: throughLineFeed n cs := by
  induction p with
  | nil => rfl
  | cons c p ih =>
    obtain ⟨hc, hp⟩ := not_or.1 (List.mem_cons.not.1 hp)
    rw [List.cons_append, throughLineFeed, if_neg (Ne.symm hc), ih hp, List.cons_append]

/-- A beginning of a text is what the text has up to the last of its line feeds, and its last line. -/
theorem throughLineFeed_append_lastLine (u v : List Char) :
    throughLineFeed (u.count '\n') (u ++ v) ++ lastLine u = u := by
  -- Line feeds are counted from the left and the last line is taken from the right; taking whole lines off
  -- the left leaves the last line as it is.
  induction u using lines_induction with
  | nil => rw [List.count_nil, throughLineFeed]; rfl
  | last p hne hp =>
    rw [List.count_eq_zero.2 hp, lastLine_of_notMem hp, throughLineFeed, List.nil_append]
  | line p cs hp ih =>
    have hcount : (p ++ '\n' :: cs).count '\n' = cs.count '\n' + 1 := by
      rw [List.count_append, List.count_eq_zero.2 hp, List.count_cons_self, Nat.zero_add]
    rw [hcount, (pieces_append_lf hp cs).2, List.append_assoc, List.cons_append,
      throughLineFeed_append_lf hp, List.append_assoc, List.cons_append, ih]

theorem lf_notMem_lastLine (cs : List Char) : '\n' ∉ lastLine cs := by
  intro h
  simpa using List.mem_rtakeWhile_imp h

/-- **The position after the beginning of a text leads to its end.** -/
theorem Position.locates_positionAfter (u v : List Char) :
    (positionAfter u).Locates (u ++ v) (utf8Len u) := by
  have hsplit := throughLineFeed_append_lastLine u v
  have hlines : (positionAfter u).linesBefore (u ++ v) = throughLineFeed (u.count '\n') (u ++ v) := by
    rw [linesBefore, positionAfter_eq, Nat.add_sub_cancel]
  have hcolumns : (positionAfter u).columnsBefore (u ++ v) = lastLine u := by
    have hdrop : (u ++ v).drop (throughLineFeed (u.count '\n') (u ++ v)).length = lastLine u ++ v := by
      nth_rewrite 3 [← hsplit]
      rw [List.append_assoc, List.drop_left]
    rw [columnsBefore, hlines, hdrop, positionAfter_eq, Nat.add_sub_cancel, List.take_left]
  refine ⟨?_, ?_, ?_, ?_⟩
  · have hcount := congrArg (List.count '\n') hsplit
    rw [List.count_append, List.count_eq_zero.2 (lf_notMem_lastLine u), Nat.add_zero] at hcount
    rw [hlines, hcount, positionAfter_eq, Nat.add_sub_cancel]
  · rw [hcolumns, positionAfter_eq, Nat.add_sub_cancel]
  · exact hcolumns ▸ lf_notMem_lastLine u
  · rw [hlines, hcolumns, ← String.utf8Len_append, hsplit]

/-- The position of an offset leads back to it. -/
theorem locates_positionAt {text : String} {offset : Nat}
    (h : String.Pos.Raw.IsValid text ⟨offset⟩) :
    (positionAt text offset).Locates text.toList offset := by
  obtain ⟨u, v, htext, rfl⟩ := exists_split_of_isValid h
  rw [positionAt_eq, htext, charsBefore_append]
  exact Position.locates_positionAfter u v

/-- **Positions follow offsets.** They do not decrease with the offset, and lines and columns count from
one. At the boundaries of characters they increase, and each leads back to its offset. An offset inside a
character has the position of that character's end, and an offset past the text that of the text's end. -/
theorem positionAt_embeds (text : String) :
    Monotone (positionAt text) ∧
    (∀ offset, 1 ≤ (positionAt text offset).line ∧ 1 ≤ (positionAt text offset).column) ∧
    StrictMonoOn (positionAt text) {offset | String.Pos.Raw.IsValid text ⟨offset⟩} ∧
    (∀ offset, String.Pos.Raw.IsValid text ⟨offset⟩ →
      (positionAt text offset).Locates text.toList offset) ∧
    (∀ (u v : List Char) (c : Char) (offset : Nat), text.toList = u ++ c :: v →
      utf8Len u < offset → offset < utf8Len u + c.utf8Size →
        positionAt text offset = positionAt text (utf8Len u + c.utf8Size)) ∧
    ∀ offset, text.utf8ByteSize ≤ offset →
      positionAt text offset = positionAt text text.utf8ByteSize :=
  ⟨positionAt_mono text,
    fun offset ↦ ⟨one_le_line_positionAt text offset, one_le_column_positionAt text offset⟩,
    positionAt_strictMonoOn text, fun _ ↦ locates_positionAt, fun _ _ _ _ ↦ positionAt_of_inside,
    fun _ ↦ positionAt_of_utf8ByteSize_le⟩

/-- The text `é\n日b` has its boundaries at 0, 2, 3, 6 and 7. -/
theorem positionAt_embeds_wideCharacters :
    positionAt "é\n日b" 1 ≤ positionAt "é\n日b" 4 ∧ positionAt "é\n日b" 3 < positionAt "é\n日b" 6 ∧
      positionAt "é\n日b" 6 = ⟨2, 2⟩ ∧ (positionAt "é\n日b" 6).Locates ['é', '\n', '日', 'b'] 6 ∧
      positionAt "é\n日b" 4 = positionAt "é\n日b" 6 ∧ positionAt "é\n日b" 9 = positionAt "é\n日b" 7 := by
  obtain ⟨hmono, -, hstrict, hlocates, hinside, hpast⟩ := positionAt_embeds "é\n日b"
  have hthree : String.Pos.Raw.IsValid "é\n日b" ⟨3⟩ := by decide
  have hsix : String.Pos.Raw.IsValid "é\n日b" ⟨6⟩ := by decide
  exact ⟨hmono (by decide), hstrict hthree hsix (by decide), by decide, hlocates 6 hsix,
    hinside ['é', '\n'] ['b'] '日' 4 rfl (by decide) (by decide), hpast 9 (by decide)⟩

end NominalCheck
