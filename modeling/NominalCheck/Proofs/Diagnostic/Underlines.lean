import NominalCheck.Proofs.Diagnostic.Alignment
import NominalCheck.Proofs.Source.Extents

/-!
# Which labels are underlined, and where

The underlines of a page stand together, below the lines of the excerpt, in the order of the labels. Two
things can be amiss with one.

* It may be **missing**. A label at the end of a text whose last line is ended has a position, but stands
  on no line of the text, and then neither an underline nor the remark of the label is shown. This is the
  only way to lose one (`printing_underlines_labels`).
* It may be **misplaced**. An underline is measured on the first line of its span, and comes after the last
  line that is shown. These are the same line if and only if no further line starts in the span or right
  where it stops (`printing_underlines_below`).
-/

namespace NominalCheck

open PrintM

/-! ### Rows that are no underlines -/

/-- The row is an underline. -/
def Row.IsUnderline : Row → Prop
  | .underline .. => True
  | _ => False

namespace Diagnostic

variable {d : Diagnostic} {options : PageOptions} {row : Row}

/-- What comes after the underlines. -/
def attachedRows (d : Diagnostic) (options : PageOptions) : List Row :=
  d.remarkRows ++ d.docsRows options ++ [.blank]

/-- Remarks and links are never underlines. -/
theorem not_isUnderline_of_mem_attachedRows (hrow : row ∈ d.attachedRows options) :
    ¬ row.IsUnderline := by
  simp only [attachedRows, remarkRows, docsRows, List.mem_append, List.mem_map, List.mem_singleton]
    at hrow
  rcases hrow with ((⟨_, -, rfl⟩ | ⟨_, -, rfl⟩) | hrow) | rfl
  · exact id
  · exact id
  · split at hrow
    · obtain ⟨url, -, rfl⟩ := Option.map_eq_some_iff.1 (Option.mem_toList.1 hrow)
      exact id
    · cases hrow
  · exact id

/-- What comes before them, if the place of the message is resolved. -/
def openingRows (d : Diagnostic) (r : ResolvedSpan) : List Row :=
  [.header d.severity d.code d.message, .location r.span.file r.start, .rule]

theorem not_isUnderline_of_mem_sourceRows {r : ResolvedSpan} (hrow : row ∈ sourceRows r) :
    ¬ row.IsUnderline := by
  obtain ⟨e, -, rfl⟩ := List.mem_map.1 hrow
  exact id

/-- Nor is anything above them, up to the first source line. -/
theorem not_isUnderline_of_mem_openingRows {r : ResolvedSpan} (hrow : row ∈ d.openingRows r) :
    ¬ row.IsUnderline := by
  simp only [openingRows, List.mem_cons, List.not_mem_nil, or_false] at hrow
  rcases hrow with rfl | rfl | rfl <;> exact id

/-- The parts of a page whose place is resolved. -/
theorem rows_page_of_resolve {label : Label} {labels : List Label} {sources : Sources}
    {r : ResolvedSpan} (hlabels : d.labels = label :: labels)
    (hr : sources.resolve label.span = .resolved r) (options : PageOptions) :
    (d.page options sources).rows = d.openingRows r ++ sourceRows r ++
      d.labels.flatMap (fun label ↦ label.underlineRows sources d.severity) ++
        d.attachedRows options := by
  have hprimary : d.primary? = some label.span := by
    rw [primary?, hlabels]
    rfl
  simp only [page, excerptRows, hprimary, hr, openingRows, attachedRows, List.append_assoc,
    List.cons_append, List.nil_append]

end Diagnostic

/-! ### Labels on no line -/

/-- The span starts at the end of the text or after it, and the last line of the text is ended. -/
def SourceSpan.IsPastLines (span : SourceSpan) (text : String) : Prop :=
  text.utf8ByteSize ≤ span.start ∧ lastLine text.toList = []

instance (span : SourceSpan) (text : String) : Decidable (span.IsPastLines text) :=
  inferInstanceAs (Decidable (_ ∧ _))

/-- The text of the label's file is at hand, and the label starts on one of its lines. -/
def Label.StandsOnLine (sources : Sources) (label : Label) : Prop :=
  ∃ text ∈ sources.get? label.span.file, ¬ label.span.IsPastLines text

instance (sources : Sources) : DecidablePred (Label.StandsOnLine sources) := fun label ↦
  inferInstanceAs (Decidable (∃ text ∈ sources.get? label.span.file, ¬ label.span.IsPastLines text))

section Labels

variable {label : Label} {sources : Sources} {text : String}
  (htext : sources.get? label.span.file = some text) (hle : label.span.start ≤ label.span.stop)

include htext

/-- A label stands on a line unless it is past all of them. -/
theorem Label.standsOnLine_iff : label.StandsOnLine sources ↔ ¬ label.span.IsPastLines text := by
  simp [StandsOnLine, htext]

include hle

/-- A label past all lines is **lost**, with its message. -/
theorem Label.underlineRows_of_isPastLines (hpast : label.span.IsPastLines text)
    (severity : Severity) : label.underlineRows sources severity = [] := by
  rw [SourceSpan.IsPastLines, ← String.utf8Len_toList] at hpast
  have hoff := (lineFeedsBefore_lt_length_iff text.toList label.span.start).not.2 (not_not.2 hpast)
  rw [underlineRows, Sources.resolve_of_le htext hle]
  simp only [List.drop_eq_nil_of_le (Nat.not_lt.1 hoff), List.take_nil, List.map_nil]

/-- Any other label has exactly one row, with at least one mark. -/
theorem Label.exists_underlineRows (hon : ¬ label.span.IsPastLines text) (severity : Severity) :
    ∃ indent length, 0 < length ∧
      label.underlineRows sources severity = [.underline severity indent length label.message] := by
  rw [SourceSpan.IsPastLines, ← String.utf8Len_toList] at hon
  have hlt := (lineFeedsBefore_lt_length_iff text.toList label.span.start).2 hon
  rw [underlineRows, Sources.resolve_of_le htext hle]
  simp only [List.drop_eq_getElem_cons hlt, List.take_succ_cons, List.map_cons]
  exact ⟨_, _, Nat.lt_of_lt_of_le Nat.one_pos (Nat.le_max_left _ _), rfl⟩

end Labels

/-- Lists of at most one element in a row. -/
theorem forall₂_filter_flatMap {α β : Type} {p : α → Prop} [DecidablePred p] {R : α → β → Prop}
    {f : α → List β} {as : List α} (hnone : ∀ a ∈ as, ¬ p a → f a = [])
    (hone : ∀ a ∈ as, p a → ∃ b, f a = [b] ∧ R a b) :
    List.Forall₂ R (as.filter p) (as.flatMap f) := by
  induction as with
  | nil => exact List.Forall₂.nil
  | cons a as ih =>
    have hrest := ih (fun b hb ↦ hnone b (List.mem_cons_of_mem _ hb)) fun b hb ↦
      hone b (List.mem_cons_of_mem _ hb)
    by_cases hp : p a
    · obtain ⟨b, hb, hR⟩ := hone a List.mem_cons_self hp
      rw [List.filter_cons, if_pos (decide_eq_true hp), List.flatMap_cons, hb]
      exact List.Forall₂.cons hR hrest
    · rw [List.filter_cons, if_neg (by simpa using hp), List.flatMap_cons, hnone a List.mem_cons_self hp]
      exact hrest

/-- The underlines of a page whose labels are not reversed, between rows that are none. -/
theorem Diagnostic.exists_rows_page {d : Diagnostic} {sources : Sources}
    (htexts : ∀ label ∈ d.labels, ∃ text, sources.get? label.span.file = some text)
    (hle : ∀ label ∈ d.labels, label.span.start ≤ label.span.stop) (options : PageOptions) :
    ∃ above, (∀ row ∈ above, ¬ row.IsUnderline) ∧ (d.page options sources).rows = above ++
      d.labels.flatMap (fun label ↦ label.underlineRows sources d.severity) ++
        d.attachedRows options := by
  cases hlabels : d.labels with
  | nil =>
    refine ⟨[.header d.severity d.code d.message], List.forall_mem_singleton.2 id, ?_⟩
    have hprimary : d.primary? = none := by
      rw [primary?, hlabels]
      rfl
    simp only [page, excerptRows, hprimary, attachedRows, List.flatMap_nil, List.append_nil,
      List.append_assoc]
  | cons label labels =>
    have hmem : label ∈ d.labels := hlabels ▸ List.mem_cons_self
    obtain ⟨text, htext⟩ := htexts label hmem
    have hr := Sources.resolve_of_le htext (hle label hmem)
    refine ⟨_, ?_, hlabels ▸ rows_page_of_resolve hlabels hr options⟩
    intro row hrow
    rcases List.mem_append.1 hrow with hrow | hrow
    · exact not_isUnderline_of_mem_openingRows hrow
    · exact not_isUnderline_of_mem_sourceRows hrow

/-- **Every label that stands on a line is underlined.** Let the texts of all files that a message points
into be at hand, and no label be reversed. Then the message is printed row by row, and its underlines
stand together: one for each label that stands on a line, in the order of the labels, with the remark of
the label after it. -/
theorem printing_underlines_labels {d : Diagnostic} {sources : Sources} (options : PageOptions)
    (htexts : ∀ label ∈ d.labels, ∃ text, sources.get? label.span.file = some text)
    (hle : ∀ label ∈ d.labels, label.span.start ≤ label.span.stop) :
    let page := d.page options sources
    runOn (.new none) (printDiagnostics .plain options sources [d]) =
        (.ok (), ⟨none, utf8 (String.join (page.rows.map (Row.text page.gutter)))⟩) ∧
      ∃ above underlines below, page.rows = above ++ underlines ++ below ∧
        (∀ row ∈ above ++ below, ¬ row.IsUnderline) ∧
          List.Forall₂ (fun label row ↦ ∃ indent length, 0 < length ∧
            row = .underline d.severity indent length label.message ∧
              row.text page.gutter = spaces page.gutter ++ " | " ++ spaces indent ++
                String.ofList (List.replicate length d.severity.marker) ++
                  (if label.message = "" then "" else " " ++ label.message) ++ "\n")
            (d.labels.filter (Label.StandsOnLine sources)) underlines := by
  intro page
  obtain ⟨above, habove, hrows⟩ := d.exists_rows_page htexts hle options
  refine ⟨d.runOn_print_plain hle options sources, above, _, d.attachedRows options, hrows, ?_, ?_⟩
  · intro row hrow
    rcases List.mem_append.1 hrow with hrow | hrow
    · exact habove row hrow
    · exact Diagnostic.not_isUnderline_of_mem_attachedRows hrow
  · apply forall₂_filter_flatMap
    · intro label hlabel hoff
      obtain ⟨text, htext⟩ := htexts label hlabel
      rw [Label.standsOnLine_iff htext, not_not] at hoff
      exact Label.underlineRows_of_isPastLines htext (hle label hlabel) hoff _
    · intro label hlabel hon
      obtain ⟨text, htext⟩ := htexts label hlabel
      rw [Label.standsOnLine_iff htext] at hon
      obtain ⟨indent, length, hpos, hunderline⟩ :=
        Label.exists_underlineRows htext (hle label hlabel) hon d.severity
      exact ⟨_, hunderline, indent, length, hpos, rfl, Row.text_underline ..⟩

/-- Two files, of which the second does not end its last line. -/
def twoFiles : Sources := .ofList [("main.py", "é\n"), ("lib.py", "x\ny")]

/-- A message with a label from inside a character to after the end of a text, and one at the end of the
other text. -/
def twoPlaces : Diagnostic :=
  { Diagnostic.bare .warning none "names differ" with
    labels := [⟨⟨⟨1, 40⟩, "main.py"⟩, "defined here"⟩, ⟨⟨⟨3, 3⟩, "lib.py"⟩, ""⟩] }

/-- Both labels are underlined. -/
theorem printing_underlines_labels_twoPlaces :
    twoPlaces.labels.filter (Label.StandsOnLine twoFiles) = twoPlaces.labels ∧
      ∃ above underlines below,
        (twoPlaces.page .standard twoFiles).rows = above ++ underlines ++ below ∧
          underlines.length = 2 := by
  have htexts : ∀ label ∈ twoPlaces.labels, ∃ text, twoFiles.get? label.span.file = some text := by
    simp only [twoPlaces, List.forall_mem_cons, List.not_mem_nil, false_imp_iff, implies_true, and_true]
    exact ⟨⟨_, rfl⟩, ⟨_, rfl⟩⟩
  have hle : ∀ label ∈ twoPlaces.labels, label.span.start ≤ label.span.stop := by decide
  have hall : twoPlaces.labels.filter (Label.StandsOnLine twoFiles) = twoPlaces.labels := by decide
  obtain ⟨-, above, underlines, below, hrows, -, hunderlines⟩ :=
    printing_underlines_labels .standard htexts hle
  rw [hall] at hunderlines
  exact ⟨hall, above, underlines, below, hrows, hunderlines.length_eq.symm⟩

/-- A message at the end of a text. -/
def endDiagnostic : Diagnostic :=
  { Diagnostic.bare .error (some "E3001") "unexpected end" with
    labels := [⟨⟨⟨6, 6⟩, "main.py"⟩, "expected an expression"⟩] }

/-- A label after the last line feed of a text is not underlined, and what it says is lost. -/
theorem not_forall_label_underlined :
    ¬ ∀ (d : Diagnostic) (sources : Sources) (options : PageOptions), d.labels ≠ [] →
      (∀ label ∈ d.labels, ∃ text, sources.get? label.span.file = some text) →
      (∀ label ∈ d.labels, label.span.start ≤ label.span.stop) →
        ∃ above underlines below, (d.page options sources).rows = above ++ underlines ++ below ∧
          List.Forall₂ (fun label row ↦ ∃ indent length,
            row = .underline d.severity indent length label.message) d.labels underlines := by
  intro hall
  obtain ⟨above, underlines, below, hrows, hunderlines⟩ :=
    hall endDiagnostic (.ofList [("main.py", "x = 1\n")]) .standard (by decide)
      (List.forall_mem_singleton.2 ⟨_, rfl⟩) (by decide)
  obtain ⟨row, rows, ⟨indent, length, rfl⟩, -, rfl⟩ := List.forall₂_cons_left_iff.1 hunderlines
  have hmem : Row.underline .error indent length "expected an expression" ∈
      (endDiagnostic.page .standard (.ofList [("main.py", "x = 1\n")])).rows := by
    rw [hrows]
    simp [endDiagnostic, Diagnostic.bare]
  have hpage : (endDiagnostic.page .standard (.ofList [("main.py", "x = 1\n")])).rows =
      [.header .error (some "E3001") "unexpected end", .location "main.py" ⟨2, 1⟩, .rule, .blank] := rfl
  simp [hpage] at hmem

/-! ### The row above an underline -/

/-- The last line of an excerpt has the number that is as many after the first as there are further
lines. -/
theorem Diagnostic.exists_sourceRows_concat {r : ResolvedSpan} {line : String} {further : List String}
    (hlines : r.lines = line :: further) :
    ∃ above last, sourceRows r = above ++ [.source (r.start.line + further.length) last] ∧
      (further = [] → last = line) := by
  rcases List.eq_nil_or_concat further with rfl | ⟨init, last, rfl⟩
  · exact ⟨[], line, by rw [sourceRows, hlines]; rfl, fun _ ↦ rfl⟩
  · refine ⟨((line :: init).zipIdx r.start.line).map fun e ↦ .source e.2 e.1, last, ?_, by simp⟩
    rw [sourceRows, hlines, List.concat_eq_append, ← List.cons_append, List.zipIdx_append,
      List.map_append]
    simp

/-- **An underline stands below the last line that is shown.** Let a message have one label, for a span
that covers something in a text that is at hand. The underline is measured on the line that the span
starts on. The row above it shows a line whose number is as many more as there are lines that start in
the span after its start, or right where it stops. So it is the line that was measured if and only if
there is no such line. -/
theorem printing_underlines_below {d : Diagnostic} {label : Label} {sources : Sources} {text : String}
    (options : PageOptions) (hlabels : d.labels = [label])
    (htext : sources.get? label.span.file = some text) (hlt : label.span.start < label.span.stop)
    (hle : label.span.stop ≤ text.utf8ByteSize) :
    let page := d.page options sources
    let further := (textLines 0 text.toList).filter fun line ↦
      label.span.start < line.start ∧ line.start ≤ label.span.stop
    ∃ r line above row below, sources.resolve label.span = .resolved r ∧
      (splitLines text.toList)[r.start.line - 1]? = some line ∧
      page.rows = above ++ [row, .underline d.severity (r.indent line) (r.underlineLength line)
        label.message] ++ below ∧
      (∀ row' ∈ above ++ row :: below, ¬ row'.IsUnderline) ∧
      (∃ last, row = .source (r.start.line + further.length) last) ∧
      (row = .source r.start.line (String.ofList line) ↔ further = []) ∧
      runOn (.new none) (printDiagnostics .plain options sources [d]) =
        (.ok (), ⟨none, utf8 (String.join (page.rows.map (Row.text page.gutter)))⟩) := by
  intro page further
  obtain ⟨r, line, hr, hline, hlines⟩ :=
    Sources.exists_resolve_cons htext hlt.le (hlt.trans_le hle)
  obtain ⟨shown, last, hsource, hlast⟩ := Diagnostic.exists_sourceRows_concat hlines
  rw [List.length_map] at hsource
  rw [List.map_eq_nil_iff] at hlast
  have hunderline : label.underlineRows sources d.severity = [.underline d.severity (r.indent line)
      (r.underlineLength line) label.message] := by
    simp only [Label.underlineRows, hr, hlines, String.toList_ofList]
  have hnotReversed : ∀ label' ∈ d.labels, label'.span.start ≤ label'.span.stop := by
    rw [hlabels, List.forall_mem_singleton]
    exact hlt.le
  have hrows := d.rows_page_of_resolve hlabels hr options
  rw [hlabels, List.flatMap_cons, List.flatMap_nil, List.append_nil, hunderline, hsource] at hrows
  refine ⟨r, line, d.openingRows r ++ shown, .source (r.start.line + further.length) last,
    d.attachedRows options, hr, hline, ?_, ?_, ⟨last, rfl⟩, ?_, ?_⟩
  · rw [hrows]
    simp only [List.append_assoc, List.cons_append, List.nil_append]
    rfl
  · intro row hrow
    simp only [List.mem_append, List.mem_cons] at hrow
    rcases hrow with (hrow | hrow) | rfl | hrow
    · exact Diagnostic.not_isUnderline_of_mem_openingRows hrow
    · exact Diagnostic.not_isUnderline_of_mem_sourceRows (hsource ▸ List.mem_append_left _ hrow)
    · exact id
    · exact Diagnostic.not_isUnderline_of_mem_attachedRows hrow
  · constructor
    · intro hrow
      obtain ⟨hnumber, -⟩ := Row.source.inj hrow
      exact List.eq_nil_of_length_eq_zero (by omega)
    · intro hfurther
      rw [hlast hfurther, hfurther]
      rfl
  · exact d.runOn_print_plain hnotReversed options sources

/-- A message on a place in `main.py`. -/
def placedDiagnostic (start stop : Nat) : Diagnostic :=
  { Diagnostic.bare .error (some "E0003") "condition must be a bool" with
    labels := [⟨⟨⟨start, stop⟩, "main.py"⟩, "here"⟩] }

/-- The span covers the last line and its line feed. -/
theorem printing_underlines_below_lastLine :
    ∃ above below,
      ((placedDiagnostic 3 6).page .standard (.ofList [("main.py", "ab\ncd\n")])).rows =
        above ++ [.source 2 "cd", .underline .error 0 2 "here"] ++ below := by
  have hlabels : (placedDiagnostic 3 6).labels = [⟨⟨⟨3, 6⟩, "main.py"⟩, "here"⟩] := rfl
  have htext : Table.get? (.ofList [("main.py", "ab\ncd\n")]) "main.py" = some "ab\ncd\n" := rfl
  obtain ⟨r, line, above, row, below, hr, hline, hrows, -, -, hrow, -⟩ :=
    printing_underlines_below .standard hlabels htext (by decide) (by decide)
  have hresolved : Sources.resolve (.ofList [("main.py", "ab\ncd\n")]) ⟨⟨3, 6⟩, "main.py"⟩ =
      .resolved ⟨⟨⟨3, 6⟩, "main.py"⟩, ⟨2, 1⟩, ⟨3, 1⟩, ["cd"]⟩ := by decide
  obtain rfl := Resolution.resolved.inj (hr.symm.trans hresolved)
  obtain rfl : ['c', 'd'] = line := Option.some.inj hline
  rw [hrow.2 (by decide)] at hrows
  exact ⟨above, below, hrows⟩

/-- A span that reaches over two lines is underlined below the second of them, but by the measure of the
first. -/
theorem not_forall_underline_below_start :
    ¬ ∀ (d : Diagnostic) (label : Label) (sources : Sources) (text : String) (options : PageOptions),
      d.labels = [label] → sources.get? label.span.file = some text → label.span.FitsIn text →
      label.span.start < label.span.stop →
      (slice text label.span.start label.span.stop).head? ≠ some '\n' →
      (slice text label.span.start label.span.stop).head? ≠ some '\r' →
        ∃ r line, sources.resolve label.span = .resolved r ∧
          (splitLines text.toList)[r.start.line - 1]? = some line ∧
            [.source r.start.line (String.ofList line), .underline d.severity (r.indent line)
              (r.underlineLength line) label.message] <:+: (d.page options sources).rows := by
  intro hall
  obtain ⟨r, line, hr, hline, hbelow⟩ :=
    hall (placedDiagnostic 0 5) ⟨⟨⟨0, 5⟩, "main.py"⟩, "here"⟩ (.ofList [("main.py", "ab\ncd")])
      "ab\ncd" .standard rfl rfl ⟨by decide, by decide, by decide⟩ (by decide) (by decide) (by decide)
  have hresolved : Sources.resolve (.ofList [("main.py", "ab\ncd")]) ⟨⟨0, 5⟩, "main.py"⟩ =
      .resolved ⟨⟨⟨0, 5⟩, "main.py"⟩, ⟨1, 1⟩, ⟨2, 3⟩, ["ab", "cd"]⟩ := by decide
  obtain rfl := Resolution.resolved.inj (hr.symm.trans hresolved)
  obtain rfl : ['a', 'b'] = line := Option.some.inj hline
  exact absurd hbelow (by decide)

end NominalCheck
