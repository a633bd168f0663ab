import NominalCheck.Proofs.Source.Lines

/-!
# The bytes that lines own

A line owns the bytes of its characters and of its ending, so that every byte of a text belongs to one
line. `textLines` gives the lines with the offsets where they start. Their characters are those that
`splitLines` gives (`map_text_textLines`), and with the endings they make up the text again
(`flatMap_chars_textLines`).

Resolving a span shows the lines from the one that its start stands on to the one that its stop stands on.
The stop of a span is excluded, but its **position** is that of what comes after the span. So the lines
that own a byte of the span are all shown, and besides them **one more** if it starts right where the span
stops (`Sources.lines_resolve`).

Offsets may stand inside a character here. All statements go line by line: `lines_induction` takes the
first line off a text, and each notion has one equation for that.
-/

namespace NominalCheck

open String (utf8Len)

/-! ### One line after the other -/

/-- A text is empty, or one line that is not ended, or a line and its line feed before another text. -/
@[elab_as_elim]
theorem lines_induction {motive : List Char → Prop} (nil : motive [])
    (last : ∀ p, p ≠ [] → '\n' ∉ p → motive p)
    (line : ∀ p cs, '\n' ∉ p → motive cs → motive (p ++ '\n' :: cs)) (cs : List Char) : motive cs := by
  by_cases hlf : '\n' ∈ cs
  · obtain ⟨p, rest, hcs, hp⟩ := List.eq_append_cons_of_mem hlf
    exact hcs ▸ line p rest hp (lines_induction nil last line rest)
  · by_cases hcs : cs = []
    · exact hcs ▸ nil
    · exact last cs hcs hlf
termination_by cs.length
decreasing_by
  have hcs : cs.length = p.length + (rest.length + 1) := by
    rw [‹cs = _›, List.length_append, List.length_cons]
  omega

theorem utf8Len_append_lf (p cs : List Char) :
    utf8Len (p ++ '\n' :: cs) = utf8Len p + 1 + utf8Len cs := by
  rw [String.utf8Len_append, String.utf8Len_cons, Nat.add_comm (utf8Len cs), Nat.add_assoc]
  rfl

/-- How many line feeds start before the offset. -/
def lineFeedsBefore (cs : List Char) (offset : Nat) : Nat := (charsBefore cs offset).count '\n'

/-- The line of an offset is the number of line feeds before it, counted from one. -/
theorem line_positionAt (text : String) (offset : Nat) :
    (positionAt text offset).line = lineFeedsBefore text.toList offset + 1 := by
  rw [positionAt_eq, line_positionAfter, lineFeedsBefore]

theorem lineFeedsBefore_of_notMem {p : List Char} (hp : '\n' ∉ p) (offset : Nat) :
    lineFeedsBefore p offset = 0 :=
  List.count_eq_zero.2 fun hmem ↦ hp ((charsBefore_isPrefix p offset).subset hmem)

/-- The line feed counts for offsets **after** it. At the line feed itself the line is still the
first. -/
theorem lineFeedsBefore_append_lf {p : List Char} (hp : '\n' ∉ p) (cs : List Char) (offset : Nat) :
    lineFeedsBefore (p ++ '\n' :: cs) offset =
      if offset ≤ utf8Len p then 0 else lineFeedsBefore cs (offset - (utf8Len p + 1)) + 1 := by
  by_cases hle : offset ≤ utf8Len p
  · rw [if_pos hle, lineFeedsBefore, charsBefore_append_of_le hle]
    exact lineFeedsBefore_of_notMem hp offset
  · have hlt : utf8Len p < offset := Nat.lt_of_not_le hle
    rw [if_neg hle, lineFeedsBefore, charsBefore_append_of_lt hlt,
      charsBefore_cons_of_pos _ _ (Nat.sub_pos_of_lt hlt), List.count_append, List.count_eq_zero.2 hp,
      List.count_cons_self, Nat.zero_add, Nat.sub_sub]
    rfl

/-! ### Lines and their places -/

/-- A line of a text. -/
structure TextLine where
  /-- The offset of its first byte. -/
  start : Nat
  /-- Its characters without the ending. -/
  text : List Char
  /-- What ends it: a line feed, possibly after a carriage return, or nothing at the end of the text. -/
  ending : List Char
deriving DecidableEq, Repr

/-- All characters of a line. -/
def TextLine.chars (line : TextLine) : List Char := line.text ++ line.ending

/-- The bytes that a line owns. -/
def TextLine.extent (line : TextLine) : Span := ⟨line.start, line.start + utf8Len line.chars⟩

@[simp] theorem TextLine.start_extent (line : TextLine) : line.extent.start = line.start := rfl

/-- The lines of a text that starts at the given offset. -/
def textLines (start : Nat) : List Char → List TextLine
  | [] => []
  | '\n' :: cs => ⟨start, [], ['\n']⟩ :: textLines (start + 1) cs
  | '\r' :: '\n' :: cs => ⟨start, [], ['\r', '\n']⟩ :: textLines (start + 2) cs
  | c :: cs =>
    match textLines (start + c.utf8Size) cs with
    | [] => [⟨start, [c], []⟩]
    | line :: lines => ⟨start, c :: line.text, line.ending⟩ :: lines

/-- They are the lines that a text is shown in. -/
theorem map_text_textLines (start : Nat) (cs : List Char) :
    (textLines start cs).map TextLine.text = splitLines cs := by
  fun_induction textLines start cs with
  | case1 => rfl
  | case2 start cs ih => rw [List.map_cons, ih, splitLines_lf]
  | case3 start cs ih => rw [List.map_cons, ih, splitLines_crlf]
  | case4 start c cs hlf hcrlf hcs ih =>
    rw [hcs] at ih
    rw [splitLines, ← ih]
    · rfl
    · exact hlf
    · exact hcrlf
  | case5 start c cs hlf hcrlf line lines hcs ih =>
    rw [hcs] at ih
    rw [splitLines, ← ih]
    · rfl
    · exact hlf
    · exact hcrlf

/-- With their endings they make up the text. -/
theorem flatMap_chars_textLines (start : Nat) (cs : List Char) :
    (textLines start cs).flatMap TextLine.chars = cs := by
  fun_induction textLines start cs with
  | case1 => rfl
  | case2 start cs ih => rw [List.flatMap_cons, ih]; rfl
  | case3 start cs ih => rw [List.flatMap_cons, ih]; rfl
  | case4 start c cs hlf hcrlf hcs ih =>
    rw [hcs, List.flatMap_nil] at ih
    rw [← ih]
    rfl
  | case5 start c cs hlf hcrlf line lines hcs ih =>
    rw [hcs] at ih
    rw [← ih]
    rfl

theorem textLines_cons_of_ne {c : Char} {cs : List Char} (hlf : c ≠ '\n')
    (hcrlf : ∀ rest, c = '\r' → cs ≠ '\n' :: rest) (start : Nat) :
    textLines start (c :: cs) =
      match textLines (start + c.utf8Size) cs with
      | [] => [⟨start, [c], []⟩]
      | line :: lines => ⟨start, c :: line.text, line.ending⟩ :: lines := by
  rw [textLines]
  · exact hlf
  · exact hcrlf

/-- A text without line feeds is one line, unless it is empty. -/
theorem textLines_of_notMem {p : List Char} (hne : p ≠ []) (hp : '\n' ∉ p) (start : Nat) :
    textLines start p = [⟨start, p, []⟩] := by
  induction p generalizing start with
  | nil => exact absurd rfl hne
  | cons c p ih =>
    obtain ⟨hc, hp⟩ := not_or.1 (List.mem_cons.not.1 hp)
    have hcrlf : ∀ rest, c = '\r' → p ≠ '\n' :: rest := by
      rintro rest - rfl
      exact hp List.mem_cons_self
    rw [textLines_cons_of_ne (Ne.symm hc) hcrlf]
    by_cases hnil : p = []
    · subst hnil
      rfl
    · rw [ih hnil hp]

/-- A line feed ends the first line, which owns everything up to it. -/
theorem exists_textLines_append_lf {p : List Char} (hp : '\n' ∉ p) (cs : List Char) (start : Nat) :
    ∃ line, textLines start (p ++ '\n' :: cs) = line :: textLines (start + (utf8Len p + 1)) cs ∧
      line.start = start ∧ line.chars = p ++ ['\n'] := by
  induction p generalizing start with
  | nil => exact ⟨⟨start, [], ['\n']⟩, by rw [List.nil_append, textLines]; rfl, rfl, rfl⟩
  | cons c p ih =>
    obtain ⟨hc, hrest⟩ := not_or.1 (List.mem_cons.not.1 hp)
    by_cases hcrlf : c = '\r' ∧ p = []
    · obtain ⟨rfl, rfl⟩ := hcrlf
      refine ⟨⟨start, [], ['\r', '\n']⟩, ?_, rfl, rfl⟩
      rw [List.cons_append, List.nil_append, textLines]
      rfl
    · have hne : ∀ rest, c = '\r' → p ++ '\n' :: cs ≠ '\n' :: rest := by
        rintro rest rfl heq
        cases p with
        | nil => exact hcrlf ⟨rfl, rfl⟩
        | cons d p =>
          obtain ⟨rfl, -⟩ := List.cons.inj heq
          exact hrest List.mem_cons_self
      obtain ⟨line, hlines, -, hchars⟩ := ih hrest (start + c.utf8Size)
      have hoffset : start + c.utf8Size + (utf8Len p + 1) = start + (utf8Len (c :: p) + 1) := by
        rw [String.utf8Len_cons]
        omega
      refine ⟨⟨start, c :: line.text, line.ending⟩, ?_, rfl, congrArg (c :: ·) hchars⟩
      rw [List.cons_append, textLines_cons_of_ne (Ne.symm hc) hne, hlines, hoffset]

theorem TextLine.extent_of_chars {line : TextLine} {p : List Char} (h : line.chars = p ++ ['\n']) :
    line.extent = ⟨line.start, line.start + (utf8Len p + 1)⟩ := by
  rw [extent, h, String.utf8Len_append]
  rfl

/-- Every line owns a byte, and none before the start of the text. -/
theorem le_of_mem_textLines {start : Nat} {cs : List Char} {line : TextLine}
    (h : line ∈ textLines start cs) : start ≤ line.start ∧ line.start < line.extent.stop := by
  induction cs using lines_induction generalizing start with
  | nil => cases h
  | last p hne hp =>
    rw [textLines_of_notMem hne hp, List.mem_singleton] at h
    subst h
    have hpos : 0 < utf8Len p := Nat.pos_of_ne_zero fun hzero ↦ hne (String.utf8Len_eq_zero.1 hzero)
    refine ⟨Nat.le_refl _, ?_⟩
    simp only [TextLine.extent, TextLine.chars, List.append_nil]
    omega
  | line p cs hp ih =>
    obtain ⟨first, hlines, hstart, hchars⟩ := exists_textLines_append_lf hp cs start
    rw [hlines, List.mem_cons] at h
    rcases h with rfl | h
    · rw [TextLine.extent_of_chars hchars]
      exact ⟨hstart.ge, Nat.lt_add_of_pos_right (Nat.succ_pos _)⟩
    · obtain ⟨hle, hlt⟩ := ih h
      exact ⟨(Nat.le_add_right _ _).trans hle, hlt⟩

/-- A line starts where the one before it has its last byte behind it. -/
theorem pairwise_textLines (start : Nat) (cs : List Char) :
    (textLines start cs).Pairwise fun line line' ↦ line.extent.stop ≤ line'.start := by
  induction cs using lines_induction generalizing start with
  | nil => exact List.Pairwise.nil
  | last p hne hp =>
    rw [textLines_of_notMem hne hp]
    exact List.pairwise_singleton _ _
  | line p cs hp ih =>
    obtain ⟨first, hlines, hstart, hchars⟩ := exists_textLines_append_lf hp cs start
    rw [hlines, List.pairwise_cons, TextLine.extent_of_chars hchars, hstart]
    exact ⟨fun line hline ↦ (le_of_mem_textLines hline).1, ih _⟩

/-- A position stands on a line, unless it is at the end of a text whose last line is ended. -/
theorem lineFeedsBefore_lt_length_iff (cs : List Char) (offset : Nat) :
    lineFeedsBefore cs offset < (splitLines cs).length ↔
      ¬ (utf8Len cs ≤ offset ∧ lastLine cs = []) := by
  induction cs using lines_induction generalizing offset with
  | nil => simp [lastLine]
  | last p hne hp =>
    rw [lineFeedsBefore_of_notMem hp, ← map_text_textLines 0, textLines_of_notMem hne hp,
      lastLine_of_notMem hp]
    simp [hne]
  | line p cs hp ih =>
    obtain ⟨first, hlines, -, -⟩ := exists_textLines_append_lf hp cs 0
    rw [← map_text_textLines 0, hlines, List.map_cons, map_text_textLines, List.length_cons,
      (pieces_append_lf hp cs).2, lineFeedsBefore_append_lf hp, utf8Len_append_lf]
    by_cases hle : offset ≤ utf8Len p
    · rw [if_pos hle]
      simp only [Nat.succ_pos, true_iff]
      omega
    · rw [if_neg hle, Nat.add_lt_add_iff_right, ih]
      have hiff : utf8Len cs ≤ offset - (utf8Len p + 1) ↔ utf8Len p + 1 + utf8Len cs ≤ offset := by
        omega
      rw [hiff]

/-! ### The lines that are shown -/

/-- The line has a byte after the start, or at it, and starts at the stop or before it. -/
def TextLine.IsBetween (start stop : Nat) (line : TextLine) : Prop :=
  line.start ≤ stop ∧ start < line.extent.stop

instance (start stop : Nat) : DecidablePred (TextLine.IsBetween start stop) := fun _ ↦
  inferInstanceAs (Decidable (_ ∧ _))

/-- **The lines from one position to another** by the places of the lines. Offsets count from where the
text is taken to start; an offset before that has the first position. -/
theorem splitLines_between {cs : List Char} {offset start stop : Nat} (hle : start ≤ stop)
    (hstart : start < offset + utf8Len cs) (hstop : offset ≤ stop) :
    ((splitLines cs).drop (lineFeedsBefore cs (start - offset))).take
        (lineFeedsBefore cs (stop - offset) - lineFeedsBefore cs (start - offset) + 1) =
      ((textLines offset cs).filter (TextLine.IsBetween start stop)).map TextLine.text := by
  induction cs using lines_induction generalizing offset with
  | nil => rfl
  | last p hne hp =>
    rw [← map_text_textLines offset, textLines_of_notMem hne hp, lineFeedsBefore_of_notMem hp,
      lineFeedsBefore_of_notMem hp, List.filter_cons_of_pos]
    · rfl
    · rw [decide_eq_true_eq, TextLine.IsBetween, TextLine.extent, TextLine.chars, List.append_nil]
      exact ⟨hstop, hstart⟩
  | line p cs hp ih =>
    obtain ⟨first, hlines, hfirst, hchars⟩ := exists_textLines_append_lf hp cs offset
    have hextent : first.extent.stop = offset + (utf8Len p + 1) := by
      rw [TextLine.extent_of_chars hchars, hfirst]
    have hbetween : first.IsBetween start stop ↔ start ≤ offset + utf8Len p := by
      rw [TextLine.IsBetween, hfirst, hextent]
      omega
    rw [← map_text_textLines offset, hlines, List.map_cons, map_text_textLines,
      lineFeedsBefore_append_lf hp, lineFeedsBefore_append_lf hp, Nat.sub_sub, Nat.sub_sub]
    by_cases hon : stop ≤ offset + utf8Len p
    · -- Both offsets are on the first line, and all others start after them.
      have hrest : (textLines (offset + (utf8Len p + 1)) cs).filter (TextLine.IsBetween start stop) =
          [] := by
        refine List.filter_eq_nil_iff.2 fun line hline ↦ ?_
        have hafter := (le_of_mem_textLines hline).1
        rw [decide_eq_true_eq, TextLine.IsBetween]
        omega
      have hin : first.IsBetween start stop := hbetween.2 (hle.trans hon)
      rw [if_pos (by omega), if_pos (by omega), List.filter_cons, if_pos (decide_eq_true hin),
        hrest]
      rfl
    · rw [utf8Len_append_lf] at hstart
      have hshown := @ih (offset + (utf8Len p + 1)) (by omega) (by omega)
      rw [if_neg (by omega)]
      by_cases hin : start ≤ offset + utf8Len p
      · -- The first line is shown, and the lines after it from their beginning.
        have hzero : start - (offset + (utf8Len p + 1)) = 0 := by omega
        have hnone : lineFeedsBefore cs 0 = 0 := by
          rw [lineFeedsBefore, charsBefore_zero]
          rfl
        rw [hzero, hnone] at hshown
        rw [if_pos (by omega), List.filter_cons, if_pos (decide_eq_true (hbetween.2 hin)),
          List.map_cons, ← hshown]
        rfl
      · rw [if_neg (by omega), List.drop_succ_cons, Nat.add_sub_add_right, hshown, List.filter_cons,
          if_neg]
        rwa [decide_eq_true_eq, hbetween]

/-- A list is filtered in two goes if nothing that passes the first test comes after something that
passes the second. -/
theorem filter_or_eq_append {α : Type} {p q : α → Bool} {l : List α}
    (hone : ∀ a ∈ l, q a = true → p a = false)
    (horder : l.Pairwise fun a b ↦ q a = true → p b = false) :
    (l.filter fun a ↦ p a || q a) = l.filter p ++ l.filter q := by
  induction l with
  | nil => rfl
  | cons a l ih =>
    obtain ⟨hafter, hrest⟩ := List.pairwise_cons.1 horder
    have hih := ih (fun b hb ↦ hone b (List.mem_cons_of_mem _ hb)) hrest
    cases hq : q a with
    | false => cases hp : p a <;> simp [hp, hq, hih]
    | true =>
      have hp : p a = false := hone a List.mem_cons_self hq
      have hnone : l.filter p = [] :=
        List.filter_eq_nil_iff.2 fun b hb ↦ Bool.not_eq_true _ ▸ hafter b hb hq
      simp [hp, hq, hih, hnone]

/-- The lines of a text stand in the order of their starts. -/
theorem filter_textLines_or {p q : TextLine → Prop} [DecidablePred p] [DecidablePred q]
    (h : ∀ line line' : TextLine, line.start ≤ line'.start → q line → ¬ p line') (offset : Nat)
    (cs : List Char) :
    (textLines offset cs).filter (fun line ↦ p line ∨ q line) =
      (textLines offset cs).filter p ++ (textLines offset cs).filter q := by
  simp only [Bool.decide_or]
  apply filter_or_eq_append
  · intro line _ hq
    exact decide_eq_false (h line line (Nat.le_refl _) (of_decide_eq_true hq))
  · refine (pairwise_textLines offset cs).imp_of_mem fun {line line'} hline _ hle hq ↦ ?_
    have hbefore := (le_of_mem_textLines hline).2
    exact decide_eq_false (h line line' (by omega) (of_decide_eq_true hq))

/-- The first line that is shown is the one that the start stands on, and the others start after it. -/
theorem exists_filter_isBetween {cs : List Char} {start stop : Nat} (hle : start ≤ stop)
    (hstart : start < utf8Len cs) :
    ∃ first, (splitLines cs)[lineFeedsBefore cs start]? = some first.text ∧
      (textLines 0 cs).filter (TextLine.IsBetween start stop) =
        first :: (textLines 0 cs).filter fun line ↦ start < line.start ∧ line.start ≤ stop := by
  have hsplit : (textLines 0 cs).filter (TextLine.IsBetween start stop) =
      (textLines 0 cs).filter (TextLine.IsBetween start start) ++
        (textLines 0 cs).filter fun line ↦ start < line.start ∧ line.start ≤ stop := by
    rw [← filter_textLines_or]
    · refine List.filter_congr fun line hline ↦ ?_
      have hown := (le_of_mem_textLines hline).2
      rw [decide_eq_decide, TextLine.IsBetween, TextLine.IsBetween]
      omega
    · intro line line' horder hline hbetween
      rw [TextLine.IsBetween] at hbetween
      omega
  have hon : lineFeedsBefore cs start < (splitLines cs).length :=
    (lineFeedsBefore_lt_length_iff cs start).2 fun hpast ↦ absurd hstart (Nat.not_lt.2 hpast.1)
  rw [← Nat.zero_add (utf8Len cs)] at hstart
  have hfirst := splitLines_between (Nat.le_refl start) hstart (Nat.zero_le _)
  rw [Nat.sub_zero, Nat.sub_self, Nat.zero_add, List.take_one, List.head?_drop,
    List.getElem?_eq_getElem hon, Option.toList_some] at hfirst
  obtain ⟨first, hsingle, htext⟩ := List.map_eq_singleton_iff.1 hfirst.symm
  refine ⟨first, ?_, ?_⟩
  · rw [List.getElem?_eq_getElem hon, htext]
  · rw [hsplit, hsingle, List.singleton_append]

/-! ### The lines that a span touches -/

/-- Some offset lies in both ranges. -/
def Span.Meets (s t : Span) : Prop := ∃ offset, offset ∈ s ∧ offset ∈ t

/-- Spans meet if their common part is not empty. -/
theorem Span.meets_iff {s t : Span} : s.Meets t ↔ max s.start t.start < min s.stop t.stop := by
  constructor
  · rintro ⟨offset, hs, ht⟩
    rw [mem_iff] at hs ht
    omega
  · intro hlt
    refine ⟨max s.start t.start, ?_, ?_⟩ <;> rw [mem_iff] <;> omega

instance (s t : Span) : Decidable (s.Meets t) := decidable_of_iff _ Span.meets_iff.symm

/-- The lines that own a byte of the span. -/
def touchedLines (text : String) (span : Span) : List TextLine :=
  (textLines 0 text.toList).filter fun line ↦ line.extent.Meets span

/-- The line that starts at the offset, if there is one. -/
def linesFrom (text : String) (offset : Nat) : List TextLine :=
  (textLines 0 text.toList).filter fun line ↦ line.start = offset

/-- The characters of a line as they are shown. -/
def TextLine.shown (line : TextLine) : String := String.ofList line.text

section Resolving

variable {sources : Sources} {span : SourceSpan} {text : String}

/-- What resolving gives for a span that is not reversed. -/
theorem Sources.resolve_of_le (htext : sources.get? span.file = some text)
    (hle : span.start ≤ span.stop) :
    sources.resolve span = .resolved ⟨span, positionAt text span.start, positionAt text span.stop,
      (((splitLines text.toList).drop (lineFeedsBefore text.toList span.start)).take
        (lineFeedsBefore text.toList span.stop - lineFeedsBefore text.toList span.start + 1)).map
          String.ofList⟩ := by
  have hlines := line_positionAt_le hle text
  rw [line_positionAt, line_positionAt] at hlines
  simp only [resolve, htext, SourceSpan.resolveIn, if_neg (Nat.not_lt.2 hlines), linesBetween,
    line_positionAt, Nat.add_sub_cancel, Nat.add_sub_add_right]

/-- **The lines that resolving shows** are those that stop after the start of the span and start at its
stop or before. -/
theorem Sources.exists_resolve (htext : sources.get? span.file = some text)
    (hle : span.start ≤ span.stop) (hstart : span.start < text.utf8ByteSize) :
    ∃ r, sources.resolve span = .resolved r ∧ r.start = positionAt text span.start ∧
        r.lines = ((textLines 0 text.toList).filter
          (TextLine.IsBetween span.start span.stop)).map TextLine.shown := by
  refine ⟨_, resolve_of_le htext hle, rfl, ?_⟩
  rw [← String.utf8Len_toList, ← Nat.zero_add (utf8Len _)] at hstart
  have hbetween := splitLines_between hle hstart (Nat.zero_le _)
  rw [Nat.sub_zero, Nat.sub_zero] at hbetween
  rw [hbetween, List.map_map]
  rfl

/-- The line that the start stands on is the first that is shown, and then come the lines that start
before the stop or at it. -/
theorem Sources.exists_resolve_cons (htext : sources.get? span.file = some text)
    (hle : span.start ≤ span.stop) (hstart : span.start < text.utf8ByteSize) :
    ∃ r line, sources.resolve span = .resolved r ∧
      (splitLines text.toList)[r.start.line - 1]? = some line ∧
        r.lines = String.ofList line :: ((textLines 0 text.toList).filter fun line ↦
          span.start < line.start ∧ line.start ≤ span.stop).map TextLine.shown := by
  obtain ⟨r, hr, hposition, hlines⟩ := exists_resolve htext hle hstart
  rw [← String.utf8Len_toList] at hstart
  obtain ⟨first, hfirst, hfilter⟩ := exists_filter_isBetween hle hstart
  refine ⟨r, first.text, hr, ?_, ?_⟩
  · rw [hposition, line_positionAt, Nat.add_sub_cancel, hfirst]
  · rw [hlines, hfilter, List.map_cons]
    rfl

/-- **Resolving shows the lines that the span touches**, and after them the line that starts where the
span stops, if there is one. So it shows exactly the touched lines if and only if no line starts there. -/
theorem Sources.lines_resolve (htext : sources.get? span.file = some text)
    (hlt : span.start < span.stop) (hle : span.stop ≤ text.utf8ByteSize) :
    ∃ r, sources.resolve span = .resolved r ∧
      r.lines = (touchedLines text span.toSpan ++ linesFrom text span.stop).map TextLine.shown ∧
        (r.lines = (touchedLines text span.toSpan).map TextLine.shown ↔
          ∀ line ∈ textLines 0 text.toList, line.start ≠ span.stop) := by
  obtain ⟨r, hr, -, hlines⟩ := exists_resolve htext hlt.le (hlt.trans_le hle)
  have hsplit : (textLines 0 text.toList).filter (TextLine.IsBetween span.start span.stop) =
      touchedLines text span.toSpan ++ linesFrom text span.stop := by
    rw [touchedLines, linesFrom, ← filter_textLines_or]
    · refine List.filter_congr fun line hline ↦ ?_
      have hown := (le_of_mem_textLines hline).2
      rw [decide_eq_decide, TextLine.IsBetween, Span.meets_iff, TextLine.start_extent]
      omega
    · intro line line' hle hline hmeets
      rw [Span.meets_iff, TextLine.start_extent] at hmeets
      omega
  rw [hsplit] at hlines
  refine ⟨r, hr, hlines, ?_⟩
  rw [hlines, List.map_append, List.append_right_eq_self, List.map_eq_nil_iff, linesFrom,
    List.filter_eq_nil_iff]
  simp only [decide_eq_true_eq]

end Resolving

/-- A file with the text `é\r\nbc\nd`. -/
def threeLineSources : Sources := .ofList [("main.py", "é\r\nbc\nd")]

/-- The span from inside the first character up to the second line feed touches two lines, and they are
what is shown. -/
theorem Sources.lines_resolve_threeLineSources :
    ∃ r, threeLineSources.resolve ⟨⟨1, 6⟩, "main.py"⟩ = .resolved r ∧ r.lines = ["é", "bc"] ∧
      r.lines = (touchedLines "é\r\nbc\nd" ⟨1, 6⟩).map TextLine.shown := by
  have htext : threeLineSources.get? (SourceSpan.mk ⟨1, 6⟩ "main.py").file = some "é\r\nbc\nd" := rfl
  obtain ⟨r, hr, hlines, htouched⟩ := Sources.lines_resolve htext (by decide) (by decide)
  exact ⟨r, hr, hlines.trans (by decide), htouched.2 (by decide)⟩

/-- The line that starts where a span stops is none that the span touches: here the span covers the first
line and its line feed, and the second line is shown too. -/
theorem not_forall_lines_touched :
    ¬ ∀ (sources : Sources) (span : SourceSpan) (text : String),
      sources.get? span.file = some text → span.start < span.stop → span.stop ≤ text.utf8ByteSize →
        ∃ r, sources.resolve span = .resolved r ∧
          r.lines = (touchedLines text span.toSpan).map TextLine.shown := by
  intro hall
  obtain ⟨r, hr, hlines⟩ :=
    hall (.ofList [("main.py", "ab\ncd")]) ⟨⟨0, 3⟩, "main.py"⟩ "ab\ncd" rfl (by decide) (by decide)
  have hresolved : Sources.resolve (.ofList [("main.py", "ab\ncd")]) ⟨⟨0, 3⟩, "main.py"⟩ =
      .resolved ⟨⟨⟨0, 3⟩, "main.py"⟩, ⟨1, 1⟩, ⟨2, 1⟩, ["ab", "cd"]⟩ := by decide
  obtain rfl := Resolution.resolved.inj (hr.symm.trans hresolved)
  exact absurd hlines (by decide)

end NominalCheck
