import Mathlib.Data.Nat.PSub
import NominalCheck.Diagnostic.OfTypeError
import NominalCheck.Proofs.Diagnostic.Writing
import NominalCheck.Proofs.Fault.First
import NominalCheck.Proofs.Source.Position

/-!
# No difference is below zero

Laying out a page takes differences of lines and of columns, and the difference of natural numbers stops
at zero. Here a page is laid out once more with `Nat.psub`, which has **no value** below zero: `resolve?`,
`underlineRows?`, `excerptRows?` and `page?` fail as soon as one difference of theirs does.

Lines and columns are counted from one, so what is taken from them alone is safe. The only difference that
can fail is that of the lines of a span's two ends (`Sources.resolve?_eq_none_iff`). It does not if the
span starts before it stops, since lines do not decrease with the offset. So a diagnostic whose labels do
is laid out exactly (`Diagnostic.page?_eq_some`), and this is the case for the faults of a program whose
own spans do: the span of a fault is one of them.
-/

namespace NominalCheck

open PrintM

/-! ### Pages with exact differences -/

/-- Resolves a span in a text, unless a difference of lines is below zero. -/
def SourceSpan.resolveIn? (span : SourceSpan) (text : String) : Option ResolvedSpan := do
  let start := positionAt text span.start
  let stop := positionAt text span.stop
  let skipped ← start.line.psub 1
  let further ← stop.line.psub start.line
  let lines := ((splitLines text.toList).drop skipped).take (further + 1)
  return ⟨span, start, stop, lines.map String.ofList⟩

/-- Resolves a span against the texts at hand, unless a difference is below zero. -/
def Sources.resolve? (sources : Sources) (span : SourceSpan) : Option Resolution :=
  match sources.get? span.file with
  | some text => (span.resolveIn? text).map .resolved
  | none => some .unavailable

/-- The underline of a span on the first of its lines, unless a difference of columns is below zero. The
length of the underline is one where there is nothing to underline, and is not counted as a difference. -/
def ResolvedSpan.underline? (r : ResolvedSpan) (line : List Char) (severity : Severity)
    (message : String) : Option Row := do
  let before ← r.start.column.psub 1
  let upTo ← if r.isMultiline then some line.length else r.stop.column.psub 1
  let indent := displayWidth (line.take before)
  return .underline severity indent (max 1 (displayWidth (line.take upTo) - indent)) message

/-- The underline of a label, unless a difference is below zero. -/
def Label.underlineRows? (label : Label) (sources : Sources) (severity : Severity) :
    Option (List Row) :=
  (sources.resolve? label.span).bind fun
    | .resolved r =>
      match r.lines with
      | [] => some []
      | line :: _ => (r.underline? line.toList severity label.message).map ([·])
    | _ => some []

namespace Diagnostic

/-- The place of a message, unless a difference is below zero. -/
def excerptRows? (d : Diagnostic) (sources : Sources) : Option (List Row) :=
  match d.primary? with
  | none => some []
  | some span =>
    (sources.resolve? span).bind fun
      | .resolved r => do
        let underlines ← d.labels.mapM fun label ↦ label.underlineRows? sources d.severity
        return [.location r.span.file r.start, .rule] ++ sourceRows r ++ underlines.flatten
      | _ => some [.byteRange span]

/-- Lays a diagnostic out, unless a difference is below zero. -/
def page? (d : Diagnostic) (options : PageOptions) (sources : Sources) : Option Page := do
  let excerpt ← d.excerptRows? sources
  return {
    gutter := d.gutter sources
    rows :=
      [.header d.severity d.code d.message] ++ excerpt ++ d.remarkRows ++ d.docsRows options ++
        [.blank] }

end Diagnostic

/-! ### Resolving -/

section Resolving

variable {sources : Sources} {span : SourceSpan} {text : String}

/-- A span is reversed if it stops on an **earlier line**. To stop at an earlier offset of its line
is not enough. -/
theorem SourceSpan.resolveIn_eq_reversed_iff :
    span.resolveIn text = .reversed ↔
      (positionAt text span.stop).line < (positionAt text span.start).line := by
  simp only [resolveIn]
  split <;> simp_all

/-- And its file has to be known, since nothing is looked at in an unknown one. -/
theorem Sources.resolve_eq_reversed_iff :
    sources.resolve span = .reversed ↔ ∃ text, sources.get? span.file = some text ∧
      (positionAt text span.stop).line < (positionAt text span.start).line := by
  rw [resolve]
  cases sources.get? span.file with
  | none => simp
  | some text => simp [SourceSpan.resolveIn_eq_reversed_iff]

/-- Only a span that stops before it starts can be found to be reversed. -/
theorem Sources.stop_lt_start_of_reversed (h : sources.resolve span = .reversed) :
    span.stop < span.start := by
  obtain ⟨text, -, hlt⟩ := resolve_eq_reversed_iff.1 h
  refine Nat.lt_of_not_le fun hle ↦ ?_
  exact Nat.not_lt.2 (line_positionAt_le hle text) hlt

/-- **A difference of lines is below zero exactly where a span is found to be reversed.** -/
theorem Sources.resolve?_eq (sources : Sources) (span : SourceSpan) :
    sources.resolve? span =
      if sources.resolve span = .reversed then none else some (sources.resolve span) := by
  rw [resolve?, resolve]
  cases sources.get? span.file with
  | none => rfl
  | some text =>
    have hone := Nat.psub_eq_sub (one_le_line_positionAt text span.start)
    simp only [SourceSpan.resolveIn_eq_reversed_iff, SourceSpan.resolveIn?, hone]
    by_cases hlt : (positionAt text span.stop).line < (positionAt text span.start).line
    · rw [if_pos hlt, Nat.psub_eq_none.2 hlt]
      rfl
    · rw [if_neg hlt, Nat.psub_eq_sub (Nat.not_lt.1 hlt), SourceSpan.resolveIn, if_neg hlt]
      rfl

theorem Sources.resolve?_eq_none_iff :
    sources.resolve? span = none ↔ sources.resolve span = .reversed := by
  rw [resolve?_eq]
  split <;> simp_all

/-- Columns are counted from one, so both can be lowered by one. -/
theorem Sources.one_le_columns_of_resolve {r : ResolvedSpan}
    (h : sources.resolve span = .resolved r) : 1 ≤ r.start.column ∧ 1 ≤ r.stop.column := by
  rw [resolve] at h
  cases htext : sources.get? span.file with
  | none => simp [htext] at h
  | some text =>
    simp only [htext, SourceSpan.resolveIn] at h
    split at h
    · cases h
    · cases h
      exact ⟨one_le_column_positionAt _ _, one_le_column_positionAt _ _⟩

end Resolving

/-! ### Labels that are not reversed -/

section Labels

variable {sources : Sources} {d : Diagnostic} {label : Label}

/-- A span that stops no earlier than it starts resolves without a failure. -/
theorem Sources.resolve?_of_le {span : SourceSpan} (h : span.start ≤ span.stop) :
    sources.resolve? span = some (sources.resolve span) := by
  rw [resolve?_eq, if_neg fun hreversed ↦ Nat.not_lt.2 h (stop_lt_start_of_reversed hreversed)]

/-- The checked differences of an underline are the plain ones. -/
theorem ResolvedSpan.underline?_eq_some {r : ResolvedSpan} (hstart : 1 ≤ r.start.column)
    (hstop : 1 ≤ r.stop.column) (line : List Char) (severity : Severity) (message : String) :
    r.underline? line severity message =
      some (.underline severity (r.indent line) (r.underlineLength line) message) := by
  rw [underline?, underlineLength, indent, Nat.psub_eq_sub hstart, Nat.psub_eq_sub hstop]
  cases r.isMultiline <;> rfl

theorem Label.underlineRows?_eq_some (h : label.span.start ≤ label.span.stop) (severity : Severity) :
    label.underlineRows? sources severity = some (label.underlineRows sources severity) := by
  simp only [underlineRows?, underlineRows, Sources.resolve?_of_le h]
  cases hr : sources.resolve label.span with
  | unavailable => rfl
  | reversed => exact absurd (Sources.stop_lt_start_of_reversed hr) (Nat.not_lt.2 h)
  | resolved r =>
    obtain ⟨hstart, hstop⟩ := Sources.one_le_columns_of_resolve hr
    cases hlines : r.lines with
    | nil => simp [hlines]
    | cons line lines =>
      have hunderline := ResolvedSpan.underline?_eq_some hstart hstop line.toList severity label.message
      simp [hlines, hunderline]

theorem Diagnostic.le_of_primary? (h : ∀ label ∈ d.labels, label.span.start ≤ label.span.stop)
    {span : SourceSpan} (hspan : d.primary? = some span) : span.start ≤ span.stop := by
  obtain ⟨label, hlabel, rfl⟩ := Option.map_eq_some_iff.1 hspan
  exact h label (List.mem_of_head? hlabel)

theorem mapM_eq_some_map {α β : Type} {f : α → Option β} {g : α → β} {as : List α}
    (h : ∀ a ∈ as, f a = some (g a)) : as.mapM f = some (as.map g) := by
  induction as with
  | nil => rfl
  | cons a as ih =>
    rw [List.mapM_cons, h a List.mem_cons_self, ih fun b hb ↦ h b (List.mem_cons_of_mem _ hb)]
    rfl

/-- **A diagnostic is laid out exactly** if none of its labels is reversed. -/
theorem Diagnostic.page?_eq_some (h : ∀ label ∈ d.labels, label.span.start ≤ label.span.stop)
    (options : PageOptions) (sources : Sources) :
    d.page? options sources = some (d.page options sources) := by
  have hunderlines : (d.labels.mapM fun label ↦ label.underlineRows? sources d.severity) =
      some (d.labels.map fun label ↦ label.underlineRows sources d.severity) :=
    mapM_eq_some_map fun label hlabel ↦ label.underlineRows?_eq_some (h label hlabel) d.severity
  have hexcerpt : d.excerptRows? sources = some (d.excerptRows sources) := by
    rw [excerptRows?, excerptRows]
    cases hspan : d.primary? with
    | none => rfl
    | some span =>
      have hle := d.le_of_primary? h hspan
      simp only [Sources.resolve?_of_le hle, Option.bind_some]
      cases hr : sources.resolve span with
      | unavailable => rfl
      | reversed => exact absurd (Sources.stop_lt_start_of_reversed hr) (Nat.not_lt.2 hle)
      | resolved r =>
        simp only [hunderlines]
        rw [List.flatMap_def]
        rfl
  rw [page?, hexcerpt]
  rfl

/-- A label in order has no row that reports a reversed span. -/
theorem Label.not_isReversed_of_mem_underlineRows (h : label.span.start ≤ label.span.stop)
    {severity : Severity} {row : Row} (hrow : row ∈ label.underlineRows sources severity) :
    ¬ row.IsReversed := by
  rw [underlineRows] at hrow
  cases hr : sources.resolve label.span with
  | unavailable => simp [hr] at hrow
  | reversed => exact absurd (Sources.stop_lt_start_of_reversed hr) (Nat.not_lt.2 h)
  | resolved r =>
    cases hlines : r.lines with
    | nil => simp [hr, hlines] at hrow
    | cons line lines =>
      simp only [hr, hlines, List.mem_singleton] at hrow
      exact hrow ▸ id

/-- Nor does the excerpt have one, as it is shown for the first of the labels. -/
theorem Diagnostic.not_isReversed_of_mem_excerptRows
    (h : ∀ label ∈ d.labels, label.span.start ≤ label.span.stop) {row : Row}
    (hrow : row ∈ d.excerptRows sources) : ¬ row.IsReversed := by
  rw [excerptRows] at hrow
  cases hspan : d.primary? with
  | none => simp [hspan] at hrow
  | some span =>
    cases hr : sources.resolve span with
    | unavailable =>
      simp only [hspan, hr, List.mem_singleton] at hrow
      exact hrow ▸ id
    | reversed =>
      have hle := d.le_of_primary? h hspan
      exact absurd (Sources.stop_lt_start_of_reversed hr) (Nat.not_lt.2 hle)
    | resolved r =>
      simp only [hspan, hr, List.mem_append, List.mem_cons, List.not_mem_nil, or_false] at hrow
      rcases hrow with ((rfl | rfl) | hrow) | hrow
      · exact id
      · exact id
      · obtain ⟨e, -, rfl⟩ := List.mem_map.1 hrow
        exact id
      · obtain ⟨label, hlabel, hrow⟩ := List.mem_flatMap.1 hrow
        exact Label.not_isReversed_of_mem_underlineRows (h label hlabel) hrow

theorem Diagnostic.not_isReversed_of_mem_remarkRows {row : Row} (hrow : row ∈ d.remarkRows) :
    ¬ row.IsReversed := by
  rcases List.mem_append.1 hrow with hrow | hrow
  all_goals
    obtain ⟨_, -, rfl⟩ := List.mem_map.1 hrow
    exact id

theorem Diagnostic.not_isReversed_of_mem_docsRows {options : PageOptions} {row : Row}
    (hrow : row ∈ d.docsRows options) : ¬ row.IsReversed := by
  rw [docsRows] at hrow
  split at hrow
  · obtain ⟨url, -, rfl⟩ := Option.map_eq_some_iff.1 (Option.mem_toList.1 hrow)
    exact id
  · cases hrow

/-- Such a diagnostic can be printed. -/
theorem Diagnostic.isPrintable_page (h : ∀ label ∈ d.labels, label.span.start ≤ label.span.stop)
    (options : PageOptions) (sources : Sources) : (d.page options sources).IsPrintable := by
  intro row hrow
  simp only [page, List.mem_append, List.mem_singleton] at hrow
  rcases hrow with (((rfl | hrow) | hrow) | hrow) | rfl
  · exact id
  · exact d.not_isReversed_of_mem_excerptRows h hrow
  · exact d.not_isReversed_of_mem_remarkRows hrow
  · exact d.not_isReversed_of_mem_docsRows hrow
  · exact id

end Labels

/-! ### Faults of programs -/

/-- The places in the items of a program. -/
def Program.spans {α : Type} (p : Program α) : List Span := p.items.flatMap Item.spans

/-- The place of a program's fault is one of its own. -/
theorem span_mem_of_checkProgram {cfg : Config} {env : Env} {p : Program Unit} {err : TypeError}
    (h : checkProgram cfg env p = .error err) : err.span ∈ p.spans := by
  obtain ⟨s', hrun⟩ := checkProgram_eq_error_iff.1 h
  obtain ⟨before, u, after, s, hitems, -, hu⟩ := CheckM.runIn_forM_eq_error_iff.1 hrun
  have hmem : u ∈ p.items := hitems ▸ List.mem_append_right _ List.mem_cons_self
  exact List.mem_flatMap.2 ⟨u, hmem, Item.span_mem_of_check hu⟩

/-- **No difference is below zero when the fault of a program is printed.** Resolving a span takes such a
difference exactly if the text is at hand and the span stops on an earlier line than it starts on, for
which it must stop before it starts. So if no place in a program does, the page of its fault is laid out
exactly, whatever the text, and it is printed as a whole or as far as there is room. -/
theorem printing_exact :
    (∀ (sources : Sources) (span : SourceSpan),
      (sources.resolve? span = none ↔ ∃ text, sources.get? span.file = some text ∧
        (positionAt text span.stop).line < (positionAt text span.start).line) ∧
      (sources.resolve? span = none ↔ sources.resolve span = .reversed) ∧
      (sources.resolve? span = none → span.stop < span.start)) ∧
    ∀ (cfg : Config) (env : Env) (p : Program Unit) (err : TypeError) (file : String)
      (options : PageOptions) (sources : Sources) (mode : Mode),
      (∀ span ∈ p.spans, span.start ≤ span.stop) → checkProgram cfg env p = .error err →
        let d := err.toDiagnostic file
        d.page? options sources = some (d.page options sources) ∧
          (∃ written, runOn (.new none) (printDiagnostics mode options sources [d]) =
            (.ok (), ⟨none, written⟩)) ∧
          ∀ sink span, (runOn sink (printDiagnostics mode options sources [d])).1 ≠
            .error (.reversedSpan span) := by
  refine ⟨fun sources span ↦ ⟨?_, Sources.resolve?_eq_none_iff, ?_⟩, ?_⟩
  · rw [Sources.resolve?_eq_none_iff, Sources.resolve_eq_reversed_iff]
  · exact fun h ↦ Sources.stop_lt_start_of_reversed (Sources.resolve?_eq_none_iff.1 h)
  · intro cfg env p err file options sources mode hspans herr d
    -- The only label is at the place of the fault.
    have hlabels : ∀ label ∈ d.labels, label.span.start ≤ label.span.stop :=
      List.forall_mem_singleton.2 (hspans err.span (span_mem_of_checkProgram herr))
    have hprintable : ∀ d' ∈ [d], (d'.page options sources).IsPrintable :=
      List.forall_mem_singleton.2 (d.isPrintable_page hlabels options sources)
    refine ⟨d.page?_eq_some hlabels options sources, ⟨_, runOn_printDiagnostics hprintable⟩, ?_⟩
    intro sink span hfault
    have hfull := eq_sinkFull_of_printDiagnostics hprintable (Prod.ext hfault rfl)
    cases hfull

/-- The text `x = é`, with a place for the name that starts inside its only character and stops after the
end of the text. -/
def misplacedChunk : Program Unit :=
  let value : Expr Unit := .var ⟨⟨5, 40⟩, ()⟩ "é"
  { vars := []
    funs := []
    classes := []
    stmts := [.assign ⟨⟨0, 40⟩, ()⟩ ⟨"x", ⟨0, 1⟩⟩ value]
    span := ⟨0, 40⟩ }

/-- Places inside a character and after the end are no obstacle to printing. -/
theorem printing_exact_misplacedChunk :
    (∀ span ∈ misplacedChunk.spans, span.start ≤ span.stop) ∧
      checkProgram .reference .builtins misplacedChunk =
        .error ⟨.undefinedName "é" [], ⟨5, 40⟩⟩ ∧
      ∃ written, runOn (.new none) (printDiagnostics .ansi .standard (.ofList [("main.py", "x = é")])
        [TypeError.toDiagnostic ⟨.undefinedName "é" [], ⟨5, 40⟩⟩ "main.py"]) =
          (.ok (), ⟨none, written⟩) := by
  have hspans : ∀ span ∈ misplacedChunk.spans, span.start ≤ span.stop := by decide
  have hcheck : checkProgram .reference .builtins misplacedChunk =
      .error ⟨.undefinedName "é" [], ⟨5, 40⟩⟩ := rfl
  have hexact := printing_exact.2 .reference .builtins misplacedChunk _ "main.py" .standard
    (.ofList [("main.py", "x = é")]) .ansi hspans hcheck
  exact ⟨hspans, hcheck, hexact.2.1⟩

end NominalCheck
