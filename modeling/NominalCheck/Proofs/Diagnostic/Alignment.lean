import NominalCheck.Proofs.Diagnostic.Differences
import NominalCheck.Proofs.Source.Lines

/-!
# Underlines stand below what they mark

A place is given in bytes, its column counts characters, and its underline is indented in columns of the
display. They meet in the text of the line **before** the place: it is as many bytes long as the place is
away from the start of the line, the column is the number of its characters, and the indent is its width
(`Diagnostic.page_of_resolve`).

The length of the underline is a difference of two widths. It is the width of what is marked if widths add
up, which is not so where a pictograph or a ligature is cut (`WidthsAddUp`). The margin of a page is as
wide as the number of the line that the span stops on; for a span on one line this is the number that
stands in the margin, so that the line and its underline start in the same column.
-/

namespace NominalCheck

open PrintM
open String (utf8Len)

/-! ### Widths -/

/-- Every part of the text takes the columns of its characters together. -/
def WidthsAddUp (cs : List Char) : Prop := ∀ part, part <:+: cs → displayWidth part = columns part

/-- Widths add up wherever no character joins with another. -/
theorem widthsAddUp_of_standsAlone {cs : List Char} (h : ∀ c ∈ cs, StandsAlone c) : WidthsAddUp cs :=
  fun _ hpart ↦ displayWidth_eq_columns fun c hc ↦ h c (hpart.subset hc)

/-- The width of a line up to a place, and from there on, are the width of the line. -/
theorem WidthsAddUp.displayWidth_append {s t : List Char} (h : WidthsAddUp (s ++ t)) :
    displayWidth (s ++ t) = displayWidth s + displayWidth t := by
  rw [h _ List.infix_rfl, h s (List.prefix_append s t).isInfix, h t (List.suffix_append s t).isInfix,
    columns_append]

/-- Below the soft hyphen every character takes one column. -/
theorem columns_eq_length {cs : List Char} (h : ∀ c ∈ cs, c.toNat < 0xAD) : columns cs = cs.length := by
  induction cs with
  | nil => rfl
  | cons c cs ih =>
    have hc : c.toNat < 0xAD := h c List.mem_cons_self
    have hzero : inRanges c.toNat zeroWidthRanges = false := if_pos hc
    have hwide : inRanges c.toNat wideRanges = false := if_pos (by omega)
    have hvowel : c.toNat ≠ 0x17A4 := by omega
    have hsign : c.toNat ≠ 0x17D8 := by omega
    have hone : charWidth c = 1 := by simp [charWidth, hzero, hwide, hvowel, hsign]
    have hrest : columns cs = cs.length := ih fun c hc ↦ h c (List.mem_cons_of_mem _ hc)
    rw [columns_cons, hone, hrest, List.length_cons, Nat.add_comm]

/-- A number and the bar after it take as many columns as they have characters. -/
theorem columns_number (n : Nat) : columns (toString n ++ " | ").toList = digitCount n + 3 := by
  have hdigits : ∀ c ∈ (toString n).toList, c.toNat < 0xAD := by
    intro c hc
    rw [Nat.toString_eq_repr, Nat.toList_repr] at hc
    have hdigit := Nat.isDigit_of_mem_toDigits (by decide) (by decide) hc
    exact (Char.isDigit_iff_toNat.1 hdigit).2.trans_lt (by decide)
  rw [String.toList_append, columns_append, columns_eq_length hdigits]
  rfl

/-! ### Spans in a line -/

/-- The span covers something in one line of the text, and not the carriage return of its ending. -/
structure SourceSpan.IsInLine (span : SourceSpan) (text : String) : Prop extends span.FitsIn text where
  /-- The span is not empty. -/
  start_lt_stop : span.start < span.stop
  /-- It stays on its line. -/
  lf_notMem : '\n' ∉ slice text span.start span.stop
  /-- No carriage return before a line feed lies in it, since such a one is not shown. -/
  not_return : ∀ pre post, text.toList = pre ++ '\r' :: '\n' :: post →
    ¬ (span.start ≤ utf8Len pre ∧ utf8Len pre < span.stop)

/-- The three parts of the text. -/
theorem SourceSpan.IsInLine.exists_parts {span : SourceSpan} {text : String} (h : span.IsInLine text) :
    ∃ u v w : List Char, text = String.ofList (u ++ v ++ w) ∧ span.start = utf8Len u ∧
      span.stop = utf8Len (u ++ v) ∧ v ≠ [] ∧ '\n' ∉ v ∧
        ∀ rest, w = '\n' :: rest → v.getLast? ≠ some '\r' := by
  obtain ⟨u, v, w, rfl, hstart, hstop⟩ := h.exists_split
  refine ⟨u, v, w, rfl, hstart, hstop, ?_, ?_, ?_⟩
  · rintro rfl
    have hlt := h.start_lt_stop
    rw [hstart, hstop, List.append_nil] at hlt
    exact Nat.lt_irrefl _ hlt
  · have hlf := h.lf_notMem
    rwa [hstart, hstop, slice_append] at hlf
  · rintro rest rfl hlast
    obtain ⟨v, rfl⟩ := List.getLast?_eq_some_iff.1 hlast
    refine h.not_return (u ++ v) rest (by simp) ⟨?_, ?_⟩
    · rw [hstart, String.utf8Len_append]
      exact Nat.le_add_right _ _
    · rw [hstop, ← List.append_assoc, String.utf8Len_append (u ++ v)]
      exact Nat.lt_add_of_pos_right (by decide)

/-- What a span covers in a line stands in that line, after the last line of what is before it. -/
theorem exists_line_of_split {u v w : List Char} (hne : v ≠ []) (hlf : '\n' ∉ v)
    (hreturn : ∀ rest, w = '\n' :: rest → v.getLast? ≠ some '\r') :
    ∃ line, (splitLines (u ++ v ++ w))[u.count '\n']? = some line ∧ lastLine u ++ v <+: line := by
  obtain ⟨hfinished, hlast⟩ := pieces_append_of_eq_nil (u := u) (finishedLines_of_notMem hlf)
  rw [lastLine_of_notMem hlf] at hlast
  rw [splitLines_eq, ← length_finishedLines u]
  rcases hw : finishedLines w with - | ⟨p, ps⟩
  · -- The line is not ended in the text.
    obtain ⟨hfinished', hlast'⟩ := pieces_append_of_eq_nil (u := u ++ v) hw
    rw [hfinished', hlast', hfinished, hlast]
    refine ⟨lastLine u ++ v ++ lastLine w, ?_, List.prefix_append _ _⟩
    simp [hne]
  · obtain ⟨hfinished', -⟩ := pieces_append_of_eq_cons (u := u ++ v) hw
    rw [hfinished', hfinished, hlast]
    refine ⟨stripReturn (lastLine u ++ v ++ p), by simp, ?_⟩
    by_cases hp : p = []
    · subst hp
      obtain ⟨rest, hrest⟩ := eq_lf_of_finishedLines hw
      have hstrip : stripReturn v = v := if_neg (hreturn rest hrest)
      rw [List.append_nil, stripReturn_append hne, hstrip]
    · rw [stripReturn_append hp]
      exact List.prefix_append _ _

/-- What resolving gives for such a span: one line, and both positions are on it. -/
theorem SourceSpan.IsInLine.exists_resolve {span : SourceSpan} {text : String} (h : span.IsInLine text)
    {sources : Sources} (htext : sources.get? span.file = some text) :
    let before := lastLine (slice text 0 span.start)
    let covered := slice text span.start span.stop
    let number := (slice text 0 span.start).count '\n' + 1
    ∃ line, (splitLines text.toList)[number - 1]? = some line ∧ before ++ covered <+: line ∧
      lastLine (slice text 0 span.stop) = before ++ covered ∧
        sources.resolve span = .resolved ⟨span, ⟨number, before.length + 1⟩,
          ⟨number, (before ++ covered).length + 1⟩, [String.ofList line]⟩ := by
  obtain ⟨u, v, w, rfl, hstart, hstop, hne, hlf, hreturn⟩ := h.exists_parts
  obtain ⟨line, hline, hbegins⟩ := exists_line_of_split (u := u) hne hlf hreturn
  have hbefore : slice (String.ofList (u ++ v ++ w)) 0 (utf8Len u) = u := by
    simpa using slice_append [] u (v ++ w)
  have hupTo : slice (String.ofList (u ++ v ++ w)) 0 (utf8Len (u ++ v)) = u ++ v := by
    simpa using slice_append [] (u ++ v) w
  have hcount : v.count '\n' = 0 := List.count_eq_zero.2 hlf
  have hlast : lastLine (u ++ v) = lastLine u ++ v := by
    rw [(pieces_append_of_eq_nil (finishedLines_of_notMem hlf)).2, lastLine_of_notMem hlf]
  have hresolve := Sources.resolve_of_split htext hstart hstop
  rw [positionAfter_eq, positionAfter_eq, List.count_append, hcount, hlast, List.take_one,
    List.head?_drop, hline] at hresolve
  simp only [hstart, hstop, hbefore, hupTo, slice_append, String.toList_ofList, Nat.add_sub_cancel]
  exact ⟨line, hline, hbegins, hlast, hresolve⟩

/-! ### Rows -/

namespace Row

/-- The number and the text of a row that shows a line of the source. -/
def sourceLine? : Row → Option (Nat × String)
  | source number line => some (number, line)
  | _ => none

/-- The text of a row without colours. -/
def text (gutter : Nat) (row : Row) : String := String.join (row.writes .plain gutter)

theorem text_location (gutter : Nat) (file : String) (position : Position) :
    (location file position).text gutter =
      spaces gutter ++ s!"--> {file}:{position.line}:{position.column}\n" := by
  simp [text, writes, pieces, Piece.writes]

theorem text_rule (gutter : Nat) : rule.text gutter = spaces gutter ++ " |\n" := by
  simp [text, writes, pieces, Piece.writes]

/-- A number as wide as the margin fills it. -/
theorem text_source (number : Nat) (line : String) :
    (source number line).text (digitCount number) = toString number ++ " | " ++ line ++ "\n" := by
  have hnumber : alignRight (digitCount number) number = toString number := by
    rw [alignRight, Nat.sub_self]
    exact String.empty_append
  simp [text, writes, pieces, Piece.writes, hnumber, String.append_assoc]

theorem text_underline (gutter : Nat) (severity : Severity) (indent length : Nat) (message : String) :
    (underline severity indent length message).text gutter =
      spaces gutter ++ " | " ++ spaces indent ++ String.ofList (List.replicate length severity.marker) ++
        (if message = "" then "" else " " ++ message) ++ "\n" := by
  by_cases hmessage : message = "" <;>
    simp [text, writes, pieces, Piece.writes, hmessage, String.append_assoc]

end Row

/-- A page is written row by row. -/
theorem Page.join_writes (page : Page) :
    String.join (page.writes .plain) = String.join (page.rows.map (Row.text page.gutter)) := by
  rw [writes]
  induction page.rows with
  | nil => rfl
  | cons row rows ih =>
    rw [List.flatMap_cons, String.join_append, ih, List.map_cons, String.join_cons]
    rfl

/-- A message without a reversed label is printed row by row. -/
theorem Diagnostic.runOn_print_plain {d : Diagnostic}
    (h : ∀ label ∈ d.labels, label.span.start ≤ label.span.stop) (options : PageOptions)
    (sources : Sources) :
    runOn (.new none) (printDiagnostics .plain options sources [d]) = (.ok (), ⟨none, utf8 (String.join
      ((d.page options sources).rows.map (Row.text (d.page options sources).gutter)))⟩) := by
  have hprintable : ∀ d' ∈ [d], (d'.page options sources).IsPrintable :=
    List.forall_mem_singleton.2 (d.isPrintable_page h options sources)
  rw [runOn_printDiagnostics hprintable, diagnosticWrites, List.flatMap_cons, List.flatMap_nil,
    List.append_nil, Page.join_writes]

/-- What is attached to a message shows no line of the source. -/
theorem Diagnostic.filterMap_sourceLine?_attached (d : Diagnostic) (options : PageOptions) :
    (d.remarkRows ++ d.docsRows options ++ [Row.blank]).filterMap Row.sourceLine? = [] := by
  have hdocs : (d.docsRows options).filterMap Row.sourceLine? = [] := by
    rw [docsRows]
    split
    · cases d.docsUrl? options.docsBaseUrl <;> rfl
    · rfl
  simp [remarkRows, hdocs, Row.sourceLine?]

/-! ### The page of a message with one label in one line -/

section OneLine

variable {d : Diagnostic} {label : Label} {sources : Sources} {number : Nat}
  {before covered line : List Char}
  (hresolve : sources.resolve label.span = .resolved ⟨label.span, ⟨number, before.length + 1⟩,
    ⟨number, (before ++ covered).length + 1⟩, [String.ofList line]⟩)
  (hbegins : before ++ covered <+: line)

include hresolve hbegins

/-- The underline is indented by what is before the span, and is as long as the span makes it wider. -/
theorem Label.underlineRows_of_resolve (severity : Severity) :
    label.underlineRows sources severity = [.underline severity (displayWidth before)
      (max 1 (displayWidth (before ++ covered) - displayWidth before)) label.message] := by
  obtain ⟨rest, rfl⟩ := hbegins
  have hindent : (before ++ covered ++ rest).take before.length = before := by
    rw [List.append_assoc, List.take_left]
  have hupTo : (before ++ covered ++ rest).take (before ++ covered).length = before ++ covered :=
    List.take_left
  simp only [underlineRows, hresolve, ResolvedSpan.underlineLength, ResolvedSpan.indent,
    ResolvedSpan.isMultiline, String.toList_ofList, Nat.add_sub_cancel, bne_self_eq_false,
    Bool.false_eq_true, if_false, hindent, hupTo]

/-- Where widths add up, the underline is as long as the span is wide. -/
theorem Diagnostic.page_of_resolve (hlabels : d.labels = [label])
    (hwidths : WidthsAddUp (before ++ covered)) (options : PageOptions) :
    d.page options sources = ⟨digitCount number,
      [.header d.severity d.code d.message, .location label.span.file ⟨number, before.length + 1⟩, .rule,
        .source number (String.ofList line),
        .underline d.severity (displayWidth before) (max 1 (displayWidth covered)) label.message] ++
        (d.remarkRows ++ d.docsRows options ++ [.blank])⟩ := by
  have hprimary : d.primary? = some label.span := by
    rw [primary?, hlabels]
    rfl
  have hunderline := Label.underlineRows_of_resolve hresolve hbegins d.severity
  rw [hwidths.displayWidth_append, Nat.add_sub_cancel_left] at hunderline
  simp only [page, gutter, excerptRows, hprimary, hresolve, hlabels, Option.map_some, List.flatMap_cons,
    List.flatMap_nil, hunderline, sourceRows, List.zipIdx_cons, List.zipIdx_nil, List.map_cons,
    List.map_nil, List.append_assoc, List.cons_append, List.nil_append]

end OneLine

/-! ### Alignment -/

section Lead

variable (severity : Severity) (gutter indent : Nat)

/-- The marks start behind the gutter, the bar and the indentation. -/
theorem length_lead : (spaces gutter ++ " | " ++ spaces indent).toList.length = gutter + 3 + indent := by
  rw [String.toList_append, String.toList_append, List.length_append, List.length_append]
  simp [spaces]

/-- No character before an underline is one of the underline. -/
theorem marker_notMem_lead :
    severity.marker ∉ (spaces gutter ++ " | " ++ spaces indent).toList := by
  have hspaces (n : Nat) : severity.marker ∉ (spaces n).toList := by
    rw [spaces, String.toList_ofList, List.mem_replicate]
    cases severity <;> simp [Severity.marker]
  have hbar : severity.marker ∉ " | ".toList := by
    cases severity <;> decide
  simp only [String.toList_append, List.mem_append, hspaces, hbar, or_self, not_false_iff]

end Lead

/-- **An underline stands below what it marks.** Let a message have one label, for a span in a line of a
text that is at hand, and let widths add up in that line as far as the span. Then the message is printed
with the line and the column where the span starts, and the only line of the source that is shown is that
line with its number. Before the underline there are as many characters as the display has columns before
the marked text in the row above, and the underline is as long as that text is wide, but not empty. After
it comes the remark, if there is one. -/
theorem printing_aligned {d : Diagnostic} {label : Label} {sources : Sources} {text : String}
    (options : PageOptions) (hlabels : d.labels = [label])
    (htext : sources.get? label.span.file = some text) (hspan : label.span.IsInLine text)
    (hwidths : WidthsAddUp (lastLine (slice text 0 label.span.stop))) :
    let before := lastLine (slice text 0 label.span.start)
    let covered := slice text label.span.start label.span.stop
    let number := (slice text 0 label.span.start).count '\n' + 1
    let column := before.length + 1
    let gutter := digitCount number
    let lead := spaces gutter ++ " | " ++ spaces (displayWidth before)
    let marks := List.replicate (max 1 (displayWidth covered)) d.severity.marker
    let remark := if label.message = "" then "" else " " ++ label.message
    ∃ line, (splitLines text.toList)[number - 1]? = some line ∧ before ++ covered <+: line ∧
      (d.page options sources).rows.filterMap Row.sourceLine? = [(number, String.ofList line)] ∧
      lead.toList.length = columns ((toString number ++ " | ").toList ++ before) ∧
      d.severity.marker ∉ lead.toList ∧
      runOn (.new none) (printDiagnostics .plain options sources [d]) =
        (.ok (), ⟨none, utf8 (String.join
          ([(Row.header d.severity d.code d.message).text gutter,
            spaces gutter ++ s!"--> {label.span.file}:{number}:{column}\n",
            spaces gutter ++ " |\n",
            toString number ++ " | " ++ String.ofList line ++ "\n",
            lead ++ String.ofList marks ++ remark ++ "\n"] ++
          (d.remarkRows ++ d.docsRows options ++ [Row.blank]).map (Row.text gutter)))⟩) := by
  intro before covered number column gutter lead marks remark
  obtain ⟨line, hline, hbegins, hupTo, hresolve⟩ := hspan.exists_resolve htext
  rw [hupTo] at hwidths
  have hpage := Diagnostic.page_of_resolve hresolve hbegins hlabels hwidths options
  refine ⟨line, hline, hbegins, ?_, ?_, marker_notMem_lead _ _ _, ?_⟩
  · rw [hpage, List.filterMap_append, Diagnostic.filterMap_sourceLine?_attached]
    rfl
  · have hbefore : displayWidth before = columns before := hwidths _ (List.prefix_append _ _).isInfix
    rw [length_lead, columns_append, columns_number, hbefore]
  · have hle : ∀ label' ∈ d.labels, label'.span.start ≤ label'.span.stop := by
      rw [hlabels, List.forall_mem_singleton]
      exact hspan.start_le_stop
    rw [d.runOn_print_plain hle, hpage]
    simp only [List.map_append, List.map_cons, List.map_nil, Row.text_location, Row.text_rule,
      Row.text_source, Row.text_underline]
    rfl

/-- Nine empty lines and the line `é = 名字`, whose first letter is written with a mark of its own. The
letter and the mark take one column together, and each of the last two characters takes two. -/
def tenLines : String := "\n\n\n\n\n\n\n\n\ne\u0301 = 名字\n"

/-- A file with these lines. -/
def tenLineSources : Sources := .ofList [("main.py", tenLines)]

/-- A message on the last two characters of the tenth line. -/
def wideDiagnostic : Diagnostic :=
  { Diagnostic.bare .error (some "E0001") "undefined name" with
    labels := [⟨⟨⟨15, 21⟩, "main.py"⟩, "not found"⟩] }

/-- The text is marked from the sixth character on, which is in the fifth column of the line. The two
characters that are marked take four columns. -/
theorem printing_aligned_wideDiagnostic :
    SourceSpan.IsInLine ⟨⟨15, 21⟩, "main.py"⟩ tenLines ∧
      runOn (.new none) (printDiagnostics .plain .standard tenLineSources [wideDiagnostic]) =
        (.ok (), ⟨none, utf8 (String.join
          ["error[E0001]: undefined name\n",
           "  --> main.py:10:6\n",
           "   |\n",
           "10 | e\u0301 = 名字\n",
           "   |     ^^^^ not found\n",
           "\n"])⟩) := by
  have hreturn : '\r' ∉ tenLines.toList := by decide
  have hspan : SourceSpan.IsInLine ⟨⟨15, 21⟩, "main.py"⟩ tenLines :=
    { start_le_stop := by decide
      start_isValid := by decide
      stop_isValid := by decide
      start_lt_stop := by decide
      lf_notMem := by decide
      not_return := fun pre post htext ↦ absurd (htext ▸ by simp) hreturn }
  have hupTo : slice tenLines 0 15 = List.replicate 9 '\n' ++ ['e', '\u0301', ' ', '=', ' '] := by decide
  have hbefore : lastLine (slice tenLines 0 15) = ['e', '\u0301', ' ', '=', ' '] := by decide
  have hcovered : slice tenLines 15 21 = ['名', '字'] := by decide
  have hlast : lastLine (slice tenLines 0 21) = ['e', '\u0301', ' ', '=', ' ', '名', '字'] := by decide
  have hwidths : WidthsAddUp (lastLine (slice tenLines 0 21)) := by
    rw [hlast]
    apply widthsAddUp_of_standsAlone
    simp only [List.forall_mem_cons, List.not_mem_nil, false_imp_iff, implies_true, and_true]
    exact ⟨by decide, by decide, by decide, by decide, by decide, by decide +kernel, by decide +kernel⟩
  have hindent : displayWidth ['e', '\u0301', ' ', '=', ' '] = 4 := by decide
  have hlength : displayWidth ['名', '字'] = 4 := by decide +kernel
  have hlabels : wideDiagnostic.labels = [⟨⟨⟨15, 21⟩, "main.py"⟩, "not found"⟩] := rfl
  have htext : tenLineSources.get? "main.py" = some tenLines := rfl
  refine ⟨hspan, ?_⟩
  obtain ⟨line, hline, -, -, -, -, hprint⟩ := printing_aligned .standard hlabels htext hspan hwidths
  rw [hbefore, hcovered, hupTo, hindent, hlength] at hprint
  rw [hupTo] at hline
  obtain rfl : ['e', '\u0301', ' ', '=', ' ', '名', '字'] = line := Option.some.inj hline
  exact hprint

end NominalCheck
