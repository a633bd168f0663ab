import Mathlib.Data.List.DropRight
import Mathlib.Data.String.Basic
import NominalCheck.Source.Resolve

/-!
# Positions and the text before them

The position at an offset is that of the characters which start before the offset. A greater offset has
the same characters before it and possibly more (`charsBefore_isPrefix_of_le`), so its line is not a
smaller one, **wherever** the two offsets stand: inside a character or past the end.

A position says how many lines are finished in the text before it and how much there is of the line that
is not (`positionAfter_eq`). At an offset between two characters the text before it is exactly the text up
to there. So a span between such offsets cuts the text into three parts, and the positions of its ends are
read off the first part and off the first two (`SourceSpan.FitsIn.exists_split`).
-/

namespace NominalCheck

open String (utf8Len)

/-! ### The characters before an offset -/

/-- Moving the offset on only adds characters. -/
theorem charsBefore_isPrefix_of_le {o o' : Nat} (h : o ≤ o') (cs : List Char) :
    charsBefore cs o <+: charsBefore cs o' := by
  induction cs generalizing o o' with
  | nil => simp
  | cons c cs ih =>
    rcases Nat.eq_zero_or_pos o with rfl | ho
    · rw [charsBefore_zero]
      exact List.nil_prefix
    · rw [charsBefore_cons_of_pos c cs ho, charsBefore_cons_of_pos c cs (by omega)]
      exact (List.prefix_cons_inj c).2 (ih (by omega))

theorem charsBefore_isPrefix (cs : List Char) (offset : Nat) : charsBefore cs offset <+: cs := by
  fun_induction charsBefore cs offset with
  | case1 | case2 => exact List.nil_prefix
  | case3 c cs n ih => exact (List.prefix_cons_inj c).2 ih

/-- What follows the offset does not matter. -/
theorem charsBefore_append_of_le {u : List Char} {offset : Nat} (h : offset ≤ utf8Len u)
    (v : List Char) : charsBefore (u ++ v) offset = charsBefore u offset := by
  induction u generalizing offset with
  | nil =>
    obtain rfl : offset = 0 := Nat.le_zero.1 h
    simp
  | cons c u ih =>
    rcases Nat.eq_zero_or_pos offset with rfl | hpos
    · simp
    · rw [String.utf8Len_cons] at h
      rw [List.cons_append, charsBefore_cons_of_pos c _ hpos, charsBefore_cons_of_pos c _ hpos,
        ih (by omega)]

/-- Once a part of the text lies before the offset, the rest of the offset is measured in what
follows. -/
theorem charsBefore_append_of_lt {u : List Char} {offset : Nat} (h : utf8Len u < offset)
    (v : List Char) : charsBefore (u ++ v) offset = u ++ charsBefore v (offset - utf8Len u) := by
  induction u generalizing offset with
  | nil => simp
  | cons c u ih =>
    rw [String.utf8Len_cons] at h
    rw [List.cons_append, charsBefore_cons_of_pos c _ (by omega), ih (by omega), String.utf8Len_cons,
      Nat.sub_sub, Nat.add_comm c.utf8Size, List.cons_append]

/-- At an offset between two characters these are the characters up to there. -/
theorem charsBefore_append (u v : List Char) : charsBefore (u ++ v) (utf8Len u) = u := by
  induction u with
  | nil => simp
  | cons c u ih =>
    have hpos : 0 < utf8Len (c :: u) := Nat.add_pos_right _ c.utf8Size_pos
    rw [List.cons_append, charsBefore_cons_of_pos c _ hpos, String.utf8Len_cons, Nat.add_sub_cancel, ih]

/-! ### The position after a text -/

/-- The position after a text. -/
def positionAfter (cs : List Char) : Position := cs.foldl Position.advance .first

theorem positionAfter_append (u v : List Char) :
    positionAfter (u ++ v) = v.foldl Position.advance (positionAfter u) :=
  List.foldl_append

/-- The last line of a text, without an ending. It is empty after a line feed. -/
def lastLine (cs : List Char) : List Char := cs.rtakeWhile (· ≠ '\n')

/-- A line feed starts an empty line, and any other character goes to the end of the line. -/
theorem lastLine_concat (cs : List Char) (c : Char) :
    lastLine (cs ++ [c]) = if c = '\n' then [] else lastLine cs ++ [c] := by
  rw [lastLine, List.rtakeWhile_concat]
  by_cases hc : c = '\n' <;> simp [hc, lastLine]

theorem positionAt_eq (text : String) (offset : Nat) :
    positionAt text offset = positionAfter (charsBefore text.toList offset) := rfl

/-- The line is one more than the line feeds before it, the column one more than the characters since the
last of them. -/
theorem positionAfter_eq (cs : List Char) :
    positionAfter cs = ⟨cs.count '\n' + 1, (lastLine cs).length + 1⟩ := by
  induction cs using List.reverseRecOn with
  | nil => rfl
  | append_singleton cs c ih =>
    have hstep : positionAfter (cs ++ [c]) = (positionAfter cs).advance c :=
      positionAfter_append cs [c]
    rw [hstep, ih, lastLine_concat]
    by_cases hc : c = '\n'
    · simp [hc]
    · rw [Position.advance_of_ne hc]
      simp [hc]

/-- A line begins after each line feed. -/
theorem line_positionAfter (cs : List Char) : (positionAfter cs).line = cs.count '\n' + 1 := by
  rw [positionAfter_eq]

/-- **Lines do not decrease with the offset.** -/
theorem line_positionAt_le {o o' : Nat} (h : o ≤ o') (text : String) :
    (positionAt text o).line ≤ (positionAt text o').line := by
  rw [positionAt_eq, positionAt_eq, line_positionAfter, line_positionAfter]
  have hcount := (charsBefore_isPrefix_of_le h text.toList).sublist.count_le '\n'
  exact Nat.add_le_add_right hcount 1

theorem one_le_line_positionAt (text : String) (offset : Nat) : 1 ≤ (positionAt text offset).line := by
  rw [positionAt_eq, positionAfter_eq]
  exact Nat.le_add_left 1 _

theorem one_le_column_positionAt (text : String) (offset : Nat) :
    1 ≤ (positionAt text offset).column := by
  rw [positionAt_eq, positionAfter_eq]
  exact Nat.le_add_left 1 _

/-! ### Spans between characters -/

/-- The characters from one offset to another. -/
def slice (text : String) (start stop : Nat) : List Char :=
  (String.Pos.Raw.extract text ⟨start⟩ ⟨stop⟩).toList

/-- The span lies in the text and cuts through none of its characters. -/
structure SourceSpan.FitsIn (span : SourceSpan) (text : String) : Prop where
  start_le_stop : span.start ≤ span.stop
  start_isValid : String.Pos.Raw.IsValid text ⟨span.start⟩
  stop_isValid : String.Pos.Raw.IsValid text ⟨span.stop⟩

/-- The middle of three parts is cut out by its byte offsets. -/
theorem slice_append (u v w : List Char) :
    slice (String.ofList (u ++ v ++ w)) (utf8Len u) (utf8Len (u ++ v)) = v := by
  rw [slice, String.utf8Len_append, String.extract_of_valid, String.toList_ofList]

/-- The characters up to a valid offset. -/
theorem exists_split_of_isValid {text : String} {offset : Nat}
    (h : String.Pos.Raw.IsValid text ⟨offset⟩) :
    ∃ u v : List Char, text.toList = u ++ v ∧ offset = utf8Len u := by
  obtain ⟨s, t, rfl, hoffset⟩ := String.Pos.Raw.isValid_iff_exists_append.1 h
  refine ⟨s.toList, t.toList, String.toList_append, ?_⟩
  rw [String.utf8Len_toList]
  exact congrArg String.Pos.Raw.byteIdx hoffset

/-- A prefix that is not shorter in bytes is the whole text. -/
theorem eq_of_isPrefix_of_utf8Len_le {u v : List Char} (h : u <+: v) (hle : utf8Len v ≤ utf8Len u) :
    u = v := by
  obtain ⟨w, rfl⟩ := h
  rw [String.utf8Len_append] at hle
  have hw : w = [] := String.utf8Len_eq_zero.1 (by omega)
  rw [hw, List.append_nil]

/-- **A span that fits cuts the text into what is before it, what it covers and what is after it.** -/
theorem SourceSpan.FitsIn.exists_split {span : SourceSpan} {text : String} (h : span.FitsIn text) :
    ∃ u v w : List Char, text = String.ofList (u ++ v ++ w) ∧ span.start = utf8Len u ∧
      span.stop = utf8Len (u ++ v) := by
  obtain ⟨u, w', hu, hstart⟩ := exists_split_of_isValid h.start_isValid
  obtain ⟨t, w, ht, hstop⟩ := exists_split_of_isValid h.stop_isValid
  have hle : utf8Len u ≤ utf8Len t := hstart ▸ hstop ▸ h.start_le_stop
  have hut : u <+: t := by
    rcases List.prefix_or_prefix_of_prefix ⟨w', hu.symm⟩ ⟨w, ht.symm⟩ with hut | htu
    · exact hut
    · exact (eq_of_isPrefix_of_utf8Len_le htu hle) ▸ List.prefix_rfl
  obtain ⟨v, rfl⟩ := hut
  refine ⟨u, v, w, ?_, hstart, hstop⟩
  rw [← ht, String.ofList_toList]

theorem positionAt_of_append (u v : List Char) :
    positionAt (String.ofList (u ++ v)) (utf8Len u) = positionAfter u := by
  rw [positionAt_eq, String.toList_ofList, charsBefore_append]

end NominalCheck
