import Mathlib.Data.List.Infix
import NominalCheck.Proofs.Source.Position

/-!
# The lines of a text, by its line feeds

Two notions of a line have to agree. Positions count line feeds; `splitLines` cuts a text at them, takes
the carriage return of an ending away, and leaves out a last line that is empty.

The first notion is that of `List.splitOn`: the pieces of a text between its line feeds are the lines that
a line feed finishes and the last line, which may be empty. So there is **one more piece than line
feeds**, and the line of a position is the number of the piece that it stands in. `splitLines_eq` ties the
second notion to the first, and `splitOn_append` says how the pieces of two texts fit together at a cut.
-/

namespace NominalCheck

open String (utf8Len)

/-- The pieces of a text that a line feed ends. -/
def finishedLines (cs : List Char) : List (List Char) := (cs.splitOn '\n').dropLast

/-! ### Pieces -/

/-- Where two texts are put together, the last line of the first goes on with the first piece of the
second. -/
theorem splitOn_append (u v : List Char) :
    (u ++ v).splitOn '\n' = finishedLines u ++ (v.splitOn '\n').modifyHead (lastLine u ++ ·) := by
  induction u using List.reverseRecOn generalizing v with
  | nil => cases hv : v.splitOn '\n' <;> simp [finishedLines, lastLine, hv]
  | append_singleton u c ih =>
    rw [List.append_assoc, List.singleton_append, lastLine_concat]
    by_cases hc : c = '\n'
    · subst hc
      have hfinished : finishedLines (u ++ ['\n']) = u.splitOn '\n' := by
        rw [finishedLines, List.splitOn_append_cons_self]
        exact List.dropLast_concat
      rw [List.splitOn_append_cons_self, hfinished, if_pos rfl]
      cases v.splitOn '\n' <;> rfl
    · have hcons (w : List Char) : (c :: w).splitOn '\n' = (w.splitOn '\n').modifyHead (c :: ·) := by
        rw [List.splitOn_cons_eq_if_modifyHead, if_neg (by simpa using hc)]
      have hfinished : finishedLines (u ++ [c]) = finishedLines u := by
        rw [finishedLines, ih, hcons]
        exact List.dropLast_concat
      rw [ih, hcons, hfinished, if_neg hc, List.modifyHead_modifyHead]
      simp only [Function.comp_def, List.append_assoc, List.singleton_append]

/-- The pieces between line feeds are the finished lines and the last one. -/
theorem splitOn_eq (cs : List Char) : cs.splitOn '\n' = finishedLines cs ++ [lastLine cs] := by
  simpa using splitOn_append cs []

theorem pieces_eq_of_splitOn {cs last : List Char} {finished : List (List Char)}
    (h : cs.splitOn '\n' = finished ++ [last]) : finishedLines cs = finished ∧ lastLine cs = last := by
  simpa using (splitOn_eq cs).symm.trans h

/-- A text without finished lines only goes on with the last line of the one before it. -/
theorem pieces_append_of_eq_nil {u v : List Char} (hv : finishedLines v = []) :
    finishedLines (u ++ v) = finishedLines u ∧ lastLine (u ++ v) = lastLine u ++ lastLine v := by
  apply pieces_eq_of_splitOn
  rw [splitOn_append, splitOn_eq v, hv]
  rfl

/-- Otherwise the first piece finishes that line. -/
theorem pieces_append_of_eq_cons {u v p : List Char} {ps : List (List Char)}
    (hv : finishedLines v = p :: ps) :
    finishedLines (u ++ v) = finishedLines u ++ (lastLine u ++ p) :: ps ∧
      lastLine (u ++ v) = lastLine v := by
  apply pieces_eq_of_splitOn
  rw [splitOn_append, splitOn_eq v, hv, List.append_assoc]
  rfl

/-- A line feed ends the text before it. -/
theorem pieces_append_lf {p : List Char} (hp : '\n' ∉ p) (cs : List Char) :
    finishedLines (p ++ '\n' :: cs) = p :: finishedLines cs ∧
      lastLine (p ++ '\n' :: cs) = lastLine cs := by
  apply pieces_eq_of_splitOn
  rw [List.splitOn_append_cons_self, List.splitOn_eq_singleton hp, splitOn_eq cs]
  rfl

theorem length_splitOn (cs : List Char) : (cs.splitOn '\n').length = cs.count '\n' + 1 := by
  induction cs with
  | nil => rfl
  | cons c cs ih =>
    rw [List.splitOn_cons_eq_if_modifyHead, List.count_cons]
    split <;> simp [ih]

/-- Each line feed finishes a line. -/
theorem length_finishedLines (cs : List Char) : (finishedLines cs).length = cs.count '\n' := by
  rw [finishedLines, List.length_dropLast, length_splitOn, Nat.add_sub_cancel]

theorem lastLine_of_notMem {cs : List Char} (h : '\n' ∉ cs) : lastLine cs = cs := by
  rw [lastLine, List.rtakeWhile_eq_self_iff]
  intro c hc
  exact decide_eq_true fun heq ↦ h (heq ▸ hc)

theorem finishedLines_of_notMem {cs : List Char} (h : '\n' ∉ cs) : finishedLines cs = [] := by
  rw [finishedLines, List.splitOn_eq_singleton h]
  rfl

/-! ### The lines that a text is shown in -/

/-- The line without the carriage return that belongs to its ending. -/
def stripReturn (line : List Char) : List Char :=
  if line.getLast? = some '\r' then line.dropLast else line

theorem stripReturn_append {p q : List Char} (h : q ≠ []) :
    stripReturn (p ++ q) = p ++ stripReturn q := by
  rw [stripReturn, stripReturn, List.getLast?_append_of_ne_nil _ h, List.dropLast_append_of_ne_nil h]
  split <;> rfl

/-- An empty piece is ended by the first character. -/
theorem eq_lf_of_finishedLines {cs : List Char} {ps : List (List Char)}
    (h : finishedLines cs = [] :: ps) : ∃ rest, cs = '\n' :: rest := by
  have hjoin : ['\n'].intercalate (cs.splitOn '\n') = cs := List.intercalate_splitOn '\n'
  obtain ⟨q, qs, hrest⟩ := List.exists_cons_of_ne_nil (List.concat_ne_nil (lastLine cs) ps)
  rw [splitOn_eq, h, List.cons_append, hrest, List.intercalate_cons_cons] at hjoin
  exact ⟨_, hjoin.symm⟩

/-- **The lines of a text** are the pieces that a line feed ends, each without a carriage return before
the line feed, and the last line unless it is empty. -/
theorem splitLines_eq (cs : List Char) :
    splitLines cs =
      (finishedLines cs).map stripReturn ++ if lastLine cs = [] then [] else [lastLine cs] := by
  fun_induction splitLines cs with
  | case1 => rfl
  | case2 cs ih =>
    obtain ⟨hfinished, hlast⟩ := pieces_append_lf (p := []) List.not_mem_nil cs
    rw [List.nil_append] at hfinished hlast
    rw [hfinished, hlast, ih]
    rfl
  | case3 cs ih =>
    obtain ⟨hfinished, hlast⟩ := pieces_append_lf (p := ['\r']) (by decide) cs
    rw [List.singleton_append] at hfinished hlast
    rw [hfinished, hlast, ih]
    rfl
  | case4 c cs hlf hcrlf hcs ih =>
    obtain rfl := splitLines_eq_nil_iff.1 hcs
    have hc : '\n' ∉ [c] := by simpa using Ne.symm hlf
    rw [finishedLines_of_notMem hc, lastLine_of_notMem hc]
    rfl
  | case5 c cs hlf hcrlf line lines hcs ih =>
    have hc : '\n' ∉ [c] := by simpa using Ne.symm hlf
    rw [hcs] at ih
    rcases hps : finishedLines cs with - | ⟨p, ps⟩
    · -- Without a line feed there is one line, and it gets longer.
      obtain ⟨hfinished, hlast⟩ := pieces_append_of_eq_nil (u := [c]) hps
      rw [finishedLines_of_notMem hc, List.singleton_append] at hfinished
      rw [lastLine_of_notMem hc, List.singleton_append] at hlast
      have hne : lastLine cs ≠ [] := by
        intro hnil
        rw [hps, if_pos hnil] at ih
        cases ih
      rw [hps, if_neg hne] at ih
      cases ih
      rw [hfinished, hlast]
      rfl
    · obtain ⟨hfinished, hlast⟩ := pieces_append_of_eq_cons (u := [c]) hps
      rw [finishedLines_of_notMem hc, lastLine_of_notMem hc, List.singleton_append] at hfinished
      rw [List.singleton_append] at hlast
      have hstrip : stripReturn ([c] ++ p) = [c] ++ stripReturn p := by
        by_cases hp : p = []
        · -- The line feed comes right after the character, which is thus no carriage return.
          subst hp
          obtain ⟨rest, rfl⟩ := eq_lf_of_finishedLines hps
          have hcr : c ≠ '\r' := fun heq ↦ hcrlf rest heq rfl
          simp [stripReturn, hcr]
        · exact stripReturn_append hp
      rw [hps] at ih
      obtain ⟨rfl, rfl⟩ := List.cons.inj ih
      rw [hfinished, hlast, List.nil_append, List.map_cons, hstrip]
      rfl

/-! ### Texts without carriage returns in their endings -/

/-- A piece that is not the last is followed by the separator. -/
theorem append_infix_intercalate {α : Type} (sep p q : List α) (ps qs : List (List α)) :
    p ++ sep <:+: sep.intercalate (ps ++ p :: q :: qs) := by
  induction ps with
  | nil =>
    rw [List.nil_append, List.intercalate_cons_cons]
    exact (List.prefix_append _ _).isInfix
  | cons r ps ih =>
    obtain ⟨s, ss, hrest⟩ := List.exists_cons_of_ne_nil (l := ps ++ p :: q :: qs) (by simp)
    rw [hrest] at ih
    rw [List.cons_append, hrest, List.intercalate_cons_cons]
    exact ih.trans (List.suffix_append _ _).isInfix

/-- A finished line stands in the text with its line feed. -/
theorem append_infix_of_mem_finishedLines {cs p : List Char} (h : p ∈ finishedLines cs) :
    p ++ ['\n'] <:+: cs := by
  obtain ⟨ps, qs, hsplit⟩ := List.append_of_mem h
  obtain ⟨q, qs', hrest⟩ := List.exists_cons_of_ne_nil (List.concat_ne_nil (lastLine cs) qs)
  have hjoin : ['\n'].intercalate (cs.splitOn '\n') = cs := List.intercalate_splitOn '\n'
  rw [splitOn_eq, hsplit, List.append_assoc, List.cons_append, hrest] at hjoin
  exact hjoin ▸ append_infix_intercalate ['\n'] p q ps qs'

/-- Then the lines are the pieces, the last one left out if it is empty. -/
theorem splitLines_of_noReturn {cs : List Char} (h : ¬ ['\r', '\n'] <:+: cs) :
    splitLines cs = if lastLine cs = [] then finishedLines cs else cs.splitOn '\n' := by
  have hstrip : ∀ p ∈ finishedLines cs, stripReturn p = p := by
    intro p hp
    refine if_neg fun hlast ↦ h ?_
    obtain ⟨q, rfl⟩ := List.getLast?_eq_some_iff.1 hlast
    have hsuffix : ['\r', '\n'] <:+ q ++ ['\r'] ++ ['\n'] := ⟨q, by simp⟩
    exact hsuffix.isInfix.trans (append_infix_of_mem_finishedLines hp)
  rw [splitLines_eq, (List.map_congr_left hstrip).trans (List.map_id _), splitOn_eq]
  split <;> simp

/-! ### Resolving -/

/-- A span that covers the second of three parts of a text starts after as many lines as the first part
has line feeds, and reaches over one more than the second has. -/
theorem Sources.resolve_of_split {sources : Sources} {span : SourceSpan} {u v w : List Char}
    (htext : sources.get? span.file = some (String.ofList (u ++ v ++ w)))
    (hstart : span.start = utf8Len u) (hstop : span.stop = utf8Len (u ++ v)) :
    sources.resolve span = .resolved ⟨span, positionAfter u, positionAfter (u ++ v),
      (((splitLines (u ++ v ++ w)).drop (u.count '\n')).take (v.count '\n' + 1)).map String.ofList⟩ := by
  have hfirst : positionAt (String.ofList (u ++ v ++ w)) span.start = positionAfter u := by
    rw [hstart, List.append_assoc, positionAt_of_append]
  have hlast : positionAt (String.ofList (u ++ v ++ w)) span.stop = positionAfter (u ++ v) := by
    rw [hstop, positionAt_of_append]
  have hcount : (u ++ v).count '\n' + 1 - (u.count '\n' + 1) = v.count '\n' := by
    rw [List.count_append]
    omega
  have hle : ¬ (u ++ v).count '\n' + 1 < u.count '\n' + 1 := by
    rw [List.count_append]
    omega
  simp only [Sources.resolve, htext, SourceSpan.resolveIn, hfirst, hlast, line_positionAfter, if_neg hle,
    linesBetween, hcount, String.toList_ofList, Nat.add_sub_cancel]

end NominalCheck
