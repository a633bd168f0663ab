import Mathlib.Data.List.ModifyLast
import NominalCheck.Proofs.Source.Lines

/-!
# Reading a span's text off its lines

Resolving a span turns two byte offsets into positions and lines. Nothing is lost by it: the characters
that the span covers can be read off the lines again, from the column of its start on the first of them to
the column of its stop on the last (`ResolvedSpan.excerpt`).

There are as many lines as the span reaches over, with **one exception**. A position after the last line
feed of a text stands on a line that is empty and that the text is not shown with, so a span that stops
there has one line less. Carriage returns before line feeds are taken away with them, so the text must
have none.
-/

namespace NominalCheck

open String (utf8Len)

namespace ResolvedSpan

/-- How many lines the span reaches over. -/
def height (r : ResolvedSpan) : Nat := r.stop.line - r.start.line + 1

/-- The lines that the span reaches over. One that is missing at the end is empty. -/
def fullLines (r : ResolvedSpan) : List (List Char) :=
  if r.lines.length + 1 = r.height then r.lines.map String.toList ++ [[]]
  else r.lines.map String.toList

/-- The text from the start to the stop, read off the lines: the last one as far as the column of the
stop, and the first one without what comes before the column of the start. -/
def excerpt (r : ResolvedSpan) : List Char :=
  ['\n'].intercalate
    ((r.fullLines.modifyLast (·.take (r.stop.column - 1))).modifyHead (·.drop (r.start.column - 1)))

end ResolvedSpan

/-! ### Pieces in the middle of a text -/

/-- The pieces that the second of two texts reaches over end with the last line of both. -/
theorem exists_pieces_append (u v : List Char) :
    ∃ init, (v.splitOn '\n').modifyHead (lastLine u ++ ·) = init ++ [lastLine (u ++ v)] ∧
      finishedLines (u ++ v) = finishedLines u ++ init := by
  have hne : (v.splitOn '\n').modifyHead (lastLine u ++ ·) ≠ [] := by
    simp
  obtain ⟨init, last, heq⟩ := (List.eq_nil_or_concat _).resolve_left hne
  rw [List.concat_eq_append] at heq
  have happend := splitOn_append u v
  rw [heq, ← List.append_assoc] at happend
  obtain ⟨hfinished, hlast⟩ := pieces_eq_of_splitOn happend
  exact ⟨init, hlast ▸ heq, hfinished⟩

/-- The pieces of a text that stand on the lines from `before.length` on, if an empty last piece of the
text is left out. They are all there, except that one of them may be the one left out. -/
theorem take_drop_shown_cases {before init after finished : List (List Char)} {piece last : List Char}
    (h : before ++ (init ++ [piece]) ++ after = finished ++ [last]) :
    let shown := if last = [] then finished else finished ++ [last]
    let cut := (shown.drop before.length).take (init.length + 1)
    cut = init ++ [piece] ∨ cut ++ [[]] = init ++ [piece] := by
  intro shown cut
  have hcut (rest : List (List Char)) (hshown : shown = before ++ (init ++ [piece]) ++ rest) :
      cut = init ++ [piece] := by
    have hlength : init.length + 1 = (init ++ [piece]).length := by simp
    simp only [cut, hshown, hlength, List.append_assoc before, List.drop_left, List.take_left]
  by_cases hlast : last = []
  · have hshown : shown = finished := if_pos hlast
    rcases List.eq_nil_or_concat after with rfl | ⟨after, z, rfl⟩
    · obtain ⟨hfinished, hpiece⟩ : before ++ init = finished ∧ piece = last := by
        simpa [← List.append_assoc] using h
      refine Or.inr ?_
      rw [hpiece, hlast, List.append_cancel_right_eq]
      simp only [cut, hshown, ← hfinished, List.drop_left]
      exact List.take_of_length_le (Nat.le_succ _)
    · refine Or.inl (hcut after (hshown.trans ?_))
      rw [List.concat_eq_append, ← List.append_assoc] at h
      exact (List.append_inj' h rfl).1.symm
  · exact Or.inl (hcut after ((if_neg hlast).trans h.symm))

/-! ### Excerpts -/

/-- The lines that are shown are all pieces of the text, or all but an **empty last** one. -/
theorem ResolvedSpan.fullLines_eq {r : ResolvedSpan} {cut pieces : List (List Char)}
    (hlines : r.lines = cut.map String.ofList) (hheight : r.height = pieces.length)
    (hcut : cut = pieces ∨ cut ++ [[]] = pieces) :
    (r.lines.length = r.height ∨ r.lines.length = r.height - 1) ∧ r.fullLines = pieces := by
  have htoList : r.lines.map String.toList = cut := by
    simp [hlines, Function.comp_def]
  have hlength : r.lines.length = cut.length := by
    rw [hlines, List.length_map]
  rcases hcut with rfl | hcut
  · refine ⟨Or.inl (hlength.trans hheight.symm), ?_⟩
    rw [fullLines, if_neg (by omega), htoList]
  · have hone : cut.length + 1 = r.height := by
      rw [hheight, ← hcut, List.length_append, List.length_singleton]
    refine ⟨Or.inr (by omega), ?_⟩
    rw [fullLines, if_pos (by omega), htoList, hcut]

/-- Cutting the pieces that the second text reaches over at the two ends of that text leaves its own
pieces, and these joined are the text. -/
theorem intercalate_cut {u v p : List Char} {init : List (List Char)}
    (hinit : (v.splitOn '\n').modifyHead (lastLine u ++ ·) = init ++ [lastLine (u ++ v)]) :
    ['\n'].intercalate (((init ++ [lastLine (u ++ v) ++ p]).modifyLast
      (·.take (lastLine (u ++ v)).length)).modifyHead (·.drop (lastLine u).length)) = v := by
  rw [List.modifyLast_concat, List.take_left, ← hinit, List.modifyHead_modifyHead]
  have hid : (fun l : List Char ↦ l.drop (lastLine u).length) ∘ (lastLine u ++ ·) = id :=
    funext fun _ ↦ List.drop_left
  rw [hid, List.modifyHead_id, id, List.intercalate_splitOn]

/-- **The lines of a span have its text.** They are as many as the span reaches over or one less, and
then the missing one is empty; and the text is read off them. -/
theorem Sources.resolve_excerpt {sources : Sources} {span : SourceSpan} {text : String}
    (htext : sources.get? span.file = some text) (hreturn : ¬ ['\r', '\n'] <:+: text.toList)
    (hfits : span.FitsIn text) :
    ∃ r, sources.resolve span = .resolved r ∧
      (r.lines.length = r.height ∨ r.lines.length = r.height - 1) ∧
        r.excerpt = slice text span.start span.stop := by
  obtain ⟨u, v, w, rfl, hstart, hstop⟩ := hfits.exists_split
  rw [String.toList_ofList] at hreturn
  obtain ⟨init, hinit, hfinished⟩ := exists_pieces_append u v
  obtain ⟨p, ps, hw⟩ := List.exists_cons_of_ne_nil (List.splitOn_ne_nil '\n' w)
  have hlength : init.length = v.count '\n' := by
    have hsame := congrArg List.length hinit
    rw [List.length_modifyHead, length_splitOn, List.length_append, List.length_singleton] at hsame
    exact Nat.succ.inj hsame.symm
  -- The pieces of the whole text, with those that the span reaches over in the middle.
  have hpieces : finishedLines u ++ (init ++ [lastLine (u ++ v) ++ p]) ++ ps =
      finishedLines (u ++ v ++ w) ++ [lastLine (u ++ v ++ w)] := by
    rw [← splitOn_eq, splitOn_append, hw, hfinished]
    simp
  have hcut := take_drop_shown_cases hpieces
  rw [← splitOn_eq, ← splitLines_of_noReturn hreturn, length_finishedLines, hlength] at hcut
  refine ⟨_, Sources.resolve_of_split htext hstart hstop, ?_⟩
  generalize hr : ResolvedSpan.mk _ _ _ _ = r
  have hheight : r.height = (init ++ [lastLine (u ++ v) ++ p]).length := by
    rw [ResolvedSpan.height, ← hr, line_positionAfter, line_positionAfter, List.count_append,
      List.length_append, List.length_singleton, hlength]
    omega
  obtain ⟨hlines, hfull⟩ := ResolvedSpan.fullLines_eq (hr ▸ rfl) hheight hcut
  refine ⟨hlines, ?_⟩
  rw [ResolvedSpan.excerpt, hfull, ← hr, positionAfter_eq, positionAfter_eq, hstart, hstop,
    slice_append]
  exact intercalate_cut hinit

/-- A file with the text `äb\ncd\n`. -/
def twoLineSources : Sources := .ofList [("main.py", "äb\ncd\n")]

/-- The span from the second character to the end reaches over a third line, which is not there. -/
theorem Sources.resolve_excerpt_twoLineSources :
    ∃ r, twoLineSources.resolve ⟨⟨2, 7⟩, "main.py"⟩ = .resolved r ∧ r.height = 3 ∧
      r.lines = ["äb", "cd"] ∧ r.excerpt = ['b', '\n', 'c', 'd', '\n'] := by
  have hfits : SourceSpan.FitsIn ⟨⟨2, 7⟩, "main.py"⟩ "äb\ncd\n" :=
    ⟨by decide, by decide, by decide⟩
  have htext : twoLineSources.get? "main.py" = some "äb\ncd\n" := rfl
  obtain ⟨r, hr, -, hexcerpt⟩ := Sources.resolve_excerpt htext (by decide) hfits
  have hresolved : twoLineSources.resolve ⟨⟨2, 7⟩, "main.py"⟩ =
      .resolved ⟨⟨⟨2, 7⟩, "main.py"⟩, ⟨1, 2⟩, ⟨3, 1⟩, ["äb", "cd"]⟩ := by decide
  obtain rfl := Resolution.resolved.inj (hr.symm.trans hresolved)
  exact ⟨_, hr, rfl, rfl, hexcerpt.trans (by decide)⟩

end NominalCheck
