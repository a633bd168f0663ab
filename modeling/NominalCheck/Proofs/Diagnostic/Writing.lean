import NominalCheck.Diagnostic.Print

/-!
# What printing writes

A page without a reversed row is written as a sequence of texts (`Page.writes`), whatever the sink takes:
the sink decides how far the sequence gets, never what comes next. And it does not matter where one text
ends and the next begins: writing texts one after the other is writing **their concatenation**
(`runOn_forM_putText`), because a sink that has become full takes nothing more.

* Into a sink without a bound, diagnostics are printed as a whole (`runOn_printDiagnostics`).
* Into a sink with a bound, they are printed up to that bound, to the byte, and the only thing that can go
  wrong is that the sink is full (`printing_bounded`).
* Conversely, diagnostics that are printed without a bound have no reversed row
  (`isPrintable_of_forall_ne`).
-/

namespace NominalCheck

open PrintM

/-! ### Texts -/

/-- The row stands for a span that cannot be laid out. -/
def Row.IsReversed : Row → Prop
  | .reversed _ => True
  | _ => False

/-- Every row can be printed. -/
def Page.IsPrintable (page : Page) : Prop := ∀ row ∈ page.rows, ¬ row.IsReversed

/-- The texts that a row is written in. -/
def Row.writes (mode : Mode) (gutter : Nat) (row : Row) : List String :=
  (row.pieces gutter).flatMap (Piece.writes mode)

/-- The texts that a page is written in. -/
def Page.writes (mode : Mode) (page : Page) : List String :=
  page.rows.flatMap (Row.writes mode page.gutter)

/-- The texts that diagnostics are written in. -/
def diagnosticWrites (mode : Mode) (options : PageOptions) (sources : Sources)
    (ds : List Diagnostic) : List String :=
  ds.flatMap fun d ↦ (d.page options sources).writes mode

/-! ### Printing is writing texts -/

section Printing

variable {mode : Mode} {options : PageOptions} {sources : Sources} {ds : List Diagnostic}

/-- Printing every element by writing some texts is writing all these texts. -/
theorem forM_eq_forM_putText {α : Type} {print : α → PrintM Unit} {writes : α → List String}
    {as : List α} (h : ∀ a ∈ as, print a = forM (writes a) putText) :
    forM as print = forM (as.flatMap writes) putText := by
  induction as with
  | nil => rfl
  | cons a as ih =>
    rw [List.forM_cons, List.flatMap_cons, List.forM_append, h a List.mem_cons_self,
      ih fun b hb ↦ h b (List.mem_cons_of_mem _ hb)]

theorem Row.print_eq_forM {row : Row} (h : ¬ row.IsReversed) (gutter : Nat) :
    row.print mode gutter = forM (row.writes mode gutter) putText := by
  have hpieces : forM (row.pieces gutter) (Piece.print mode) =
      forM (row.writes mode gutter) putText :=
    forM_eq_forM_putText fun _ _ ↦ rfl
  rw [← hpieces]
  cases row with
  | reversed span => exact absurd trivial h
  | header | location | byteRange | rule | source | underline | remark | docs | blank => rfl

theorem Page.print_eq_forM {page : Page} (h : page.IsPrintable) :
    page.print mode = forM (page.writes mode) putText :=
  forM_eq_forM_putText fun row hrow ↦ Row.print_eq_forM (h row hrow) _

theorem printDiagnostics_eq_forM (h : ∀ d ∈ ds, (d.page options sources).IsPrintable) :
    printDiagnostics mode options sources ds =
      forM (diagnosticWrites mode options sources ds) putText :=
  forM_eq_forM_putText fun d hd ↦ Page.print_eq_forM (h d hd)

end Printing

/-! ### Sinks -/

theorem utf8_append (s t : String) : utf8 (s ++ t) = utf8 s ++ utf8 t := by
  rw [utf8, String.toList_append, List.flatMap_append]
  rfl

namespace Sink

@[simp] theorem write_nil (sink : Sink) : sink.write [] = sink := by
  rcases sink with ⟨_ | room, written⟩ <;> simp [write]

/-- Bytes can be written in two goes. -/
theorem write_append (sink : Sink) (bytes rest : List UInt8) :
    sink.write (bytes ++ rest) = (sink.write bytes).write rest := by
  rcases sink with ⟨_ | room, written⟩ <;> simp [write, List.take_append, Nat.sub_sub]

/-- There is room for bytes if there is for the first of them and, once these are written, for the
others. -/
theorem takes_length_append (sink : Sink) (bytes rest : List UInt8) :
    sink.takes (bytes ++ rest).length =
      (sink.takes bytes.length && (sink.write bytes).takes rest.length) := by
  rcases sink with ⟨_ | room, written⟩
  · rfl
  · show decide _ = (decide (bytes.length ≤ room) && decide (rest.length ≤ room - bytes.length))
    rw [List.length_append, ← Bool.decide_and, decide_eq_decide]
    omega

/-- A sink that is full takes nothing more. -/
theorem write_write_of_not_takes {sink : Sink} {bytes : List UInt8} (h : ¬ sink.takes bytes.length)
    (rest : List UInt8) : (sink.write bytes).write rest = sink.write bytes := by
  rcases sink with ⟨_ | room, written⟩
  · exact absurd rfl h
  · have hroom : room - bytes.length = 0 := by
      have hlt : ¬ bytes.length ≤ room := fun hle ↦ h (decide_eq_true hle)
      omega
    simp [write, hroom]

end Sink

theorem runOn_putText (sink : Sink) (text : String) :
    runOn sink (putText text) =
      (if sink.takes (utf8 text).length then .ok () else .error .sinkFull, sink.write (utf8 text)) := rfl

/-- A sink without a bound takes everything. -/
theorem runOn_putText_of_unbounded (written : List UInt8) (text : String) :
    runOn ⟨none, written⟩ (putText text) = (.ok (), ⟨none, written ++ utf8 text⟩) := rfl

/-- **Many writes are one.** Texts that are written one after the other are written as far as their
concatenation is, wherever between or inside of them the sink becomes full. -/
theorem runOn_forM_putText (sink : Sink) (texts : List String) :
    runOn sink (forM texts putText) = runOn sink (putText (String.join texts)) := by
  induction texts generalizing sink with
  | nil =>
    have hempty : utf8 (String.join []) = [] := rfl
    have htakes : sink.takes 0 := by rcases sink with ⟨_ | room, written⟩ <;> simp [Sink.takes]
    rw [List.forM_nil, runOn_pure, runOn_putText, hempty, List.length_nil, if_pos htakes, Sink.write_nil]
  | cons text texts ih =>
    rw [List.forM_cons, runOn_bind, runOn_putText, runOn_putText, String.join_cons, utf8_append,
      Sink.takes_length_append, Sink.write_append]
    by_cases htakes : sink.takes (utf8 text).length
    · rw [if_pos htakes, htakes, Bool.true_and]
      exact ih _
    · rw [if_neg htakes, Sink.write_write_of_not_takes htakes, Bool.eq_false_iff.2 htakes, Bool.false_and]
      rfl

/-! ### Reversed spans -/

/-- Into a sink without a bound, `x` prints as a whole, and then `p` holds, or it stops at a reversed
span. -/
def PrintM.StopsUnless (p : Prop) (x : PrintM Unit) : Prop :=
  ∀ written, (∃ written', runOn ⟨none, written⟩ x = (.ok (), ⟨none, written'⟩) ∧ p) ∨
    ∃ span, (runOn ⟨none, written⟩ x).1 = .error (.reversedSpan span)

/-- Steps in a row stop at the first that has to. -/
theorem PrintM.StopsUnless.forM {α : Type} {p : α → Prop} {print : α → PrintM Unit} {as : List α}
    (h : ∀ a ∈ as, StopsUnless (p a) (print a)) : StopsUnless (∀ a ∈ as, p a) (forM as print) := by
  induction as with
  | nil => exact fun written ↦ Or.inl ⟨written, rfl, List.forall_mem_nil _⟩
  | cons a as ih =>
    intro written
    rw [List.forM_cons, runOn_bind]
    rcases h a List.mem_cons_self written with ⟨written', hok, hp⟩ | ⟨span, hstop⟩
    · rw [hok]
      refine (ih (fun b hb ↦ h b (List.mem_cons_of_mem _ hb)) written').imp_left ?_
      rintro ⟨written'', hrest, hps⟩
      exact ⟨written'', hrest, List.forall_mem_cons.2 ⟨hp, hps⟩⟩
    · refine Or.inr ⟨span, ?_⟩
      rcases hrun : runOn ⟨none, written⟩ (print a) with ⟨_ | _, sink⟩
      · rw [hrun] at hstop
        exact hstop
      · rw [hrun] at hstop
        cases hstop

theorem Row.print_stopsUnless (mode : Mode) (gutter : Nat) (row : Row) :
    StopsUnless (¬ row.IsReversed) (row.print mode gutter) := by
  intro written
  by_cases h : row.IsReversed
  · cases row with
    | reversed span => exact Or.inr ⟨span, rfl⟩
    | header | location | byteRange | rule | source | underline | remark | docs | blank => cases h
  · rw [Row.print_eq_forM h, runOn_forM_putText]
    exact Or.inl ⟨_, runOn_putText_of_unbounded written _, h⟩

/-- Without a bound, a page is printed as a whole or stops at a reversed span. -/
theorem Page.print_stopsUnless (mode : Mode) (page : Page) :
    StopsUnless page.IsPrintable (page.print mode) :=
  .forM fun row _ ↦ row.print_stopsUnless mode _

/-- Only a reversed span keeps a page from being printed into a sink without a bound. -/
theorem Page.isPrintable_iff {mode : Mode} {page : Page} :
    page.IsPrintable ↔
      ∀ span, (runOn (.new none) (page.print mode)).1 ≠ .error (.reversedSpan span) := by
  constructor
  · intro h span
    rw [Page.print_eq_forM h, runOn_forM_putText, Sink.new, runOn_putText_of_unbounded]
    nofun
  · intro h
    rcases page.print_stopsUnless mode [] with ⟨-, -, hprintable⟩ | ⟨span, hspan⟩
    · exact hprintable
    · exact absurd hspan (h span)

/-- Only a reversed span keeps diagnostics from being printed into a sink without a bound. -/
theorem isPrintable_of_forall_ne {mode : Mode} {options : PageOptions} {sources : Sources}
    {ds : List Diagnostic}
    (h : ∀ span, (runOn (.new none) (printDiagnostics mode options sources ds)).1 ≠
      .error (.reversedSpan span)) : ∀ d ∈ ds, (d.page options sources).IsPrintable := by
  have hstops : StopsUnless (∀ d ∈ ds, (d.page options sources).IsPrintable)
      (printDiagnostics mode options sources ds) :=
    .forM fun d _ ↦ (d.page options sources).print_stopsUnless mode
  rcases hstops [] with ⟨-, -, hprintable⟩ | ⟨span, hspan⟩
  · exact hprintable
  · exact absurd hspan (h span)

/-! ### Diagnostics -/

/-- The bytes that a diagnostic is printed in where there is room for all of them. -/
def Diagnostic.bytes (mode : Mode) (options : PageOptions) (sources : Sources) (d : Diagnostic) :
    List UInt8 :=
  (runOn (.new none) ((d.page options sources).print mode)).2.written

section Diagnostics

variable {mode : Mode} {options : PageOptions} {sources : Sources} {ds : List Diagnostic}

/-- Printing diagnostics is writing one text, however much the sink takes. -/
theorem runOn_printDiagnostics_eq (h : ∀ d ∈ ds, (d.page options sources).IsPrintable) (sink : Sink) :
    runOn sink (printDiagnostics mode options sources ds) =
      runOn sink (putText (String.join (diagnosticWrites mode options sources ds))) := by
  rw [printDiagnostics_eq_forM h, runOn_forM_putText]

/-- **Diagnostics are printed as a whole** into a sink without a bound. -/
theorem runOn_printDiagnostics (h : ∀ d ∈ ds, (d.page options sources).IsPrintable) :
    runOn (.new none) (printDiagnostics mode options sources ds) =
      (.ok (), ⟨none, utf8 (String.join (diagnosticWrites mode options sources ds))⟩) := by
  rw [runOn_printDiagnostics_eq h, Sink.new, runOn_putText_of_unbounded, List.nil_append]

/-- If all pages can be printed, a full sink is the only fault. -/
theorem eq_sinkFull_of_printDiagnostics (h : ∀ d ∈ ds, (d.page options sources).IsPrintable)
    {sink sink' : Sink} {fault : PrintFault}
    (hfault : runOn sink (printDiagnostics mode options sources ds) = (.error fault, sink')) :
    fault = .sinkFull := by
  rw [runOn_printDiagnostics_eq h, runOn_putText] at hfault
  split at hfault
  · cases hfault
  · cases hfault
    rfl

/-- The bytes of a diagnostic are what it writes when nothing bounds it. -/
theorem Diagnostic.bytes_eq_utf8 {d : Diagnostic} (h : (d.page options sources).IsPrintable) :
    d.bytes mode options sources = utf8 (String.join ((d.page options sources).writes mode)) := by
  rw [bytes, Page.print_eq_forM h, runOn_forM_putText, Sink.new, runOn_putText_of_unbounded,
    List.nil_append]

/-- The text of diagnostics is that of each of them in turn. -/
theorem flatMap_bytes_eq_utf8 (h : ∀ d ∈ ds, (d.page options sources).IsPrintable) :
    ds.flatMap (Diagnostic.bytes mode options sources) =
      utf8 (String.join (diagnosticWrites mode options sources ds)) := by
  induction ds with
  | nil => rfl
  | cons d ds ih =>
    obtain ⟨hd, hds⟩ := List.forall_mem_cons.1 h
    rw [List.flatMap_cons, Diagnostic.bytes_eq_utf8 hd, ih hds, diagnosticWrites, diagnosticWrites,
      List.flatMap_cons, String.join_append, utf8_append]

/-- **A sink with a bound gets exactly what fits.** Let no diagnostic have a span that cannot be laid out,
and let `full` be the bytes of all of them in turn. With room for `n` bytes, printing writes the first `n`
bytes of `full`, or all of them if there are no more, and it reports that the sink is full exactly if some
are left over. Nothing else can go wrong, and without a bound nothing does. -/
theorem printing_bounded
    (hruns : ∀ d ∈ ds, ∀ span, (runOn (.new none) ((d.page options sources).print mode)).1 ≠
      .error (.reversedSpan span)) (n : Nat) :
    let full := ds.flatMap (Diagnostic.bytes mode options sources)
    runOn (.new none) (printDiagnostics mode options sources ds) = (.ok (), ⟨none, full⟩) ∧
      runOn (.new (some n)) (printDiagnostics mode options sources ds) =
        (if n < full.length then .error .sinkFull else .ok (),
          ⟨some (n - full.length), full.take n⟩) := by
  intro full
  have hprintable : ∀ d ∈ ds, (d.page options sources).IsPrintable := fun d hd ↦
    Page.isPrintable_iff.2 (hruns d hd)
  have hfull : full = utf8 (String.join (diagnosticWrites mode options sources ds)) :=
    flatMap_bytes_eq_utf8 hprintable
  refine ⟨?_, ?_⟩
  · rw [hfull, runOn_printDiagnostics hprintable]
  · rw [runOn_printDiagnostics_eq hprintable, runOn_putText, ← hfull]
    have htakes : (Sink.new (some n)).takes full.length = true ↔ ¬ n < full.length := by
      rw [Nat.not_lt]
      exact decide_eq_true_iff
    rw [Prod.mk.injEq]
    refine ⟨?_, rfl⟩
    by_cases hn : n < full.length
    · rw [if_neg (mt htakes.1 (not_not_intro hn)), if_pos hn]
    · rw [if_pos (htakes.2 hn), if_neg hn]

/-- With colours, a note that says `ü` takes 44 bytes. Printed twice with room for 81, it is cut off in the
middle of its text, which is a character of two bytes; with room for 88 it is printed twice. -/
theorem printing_bounded_twoNotes :
    let ds := [Diagnostic.bare .note none "ü", .bare .note none "ü"]
    let full := ds.flatMap (Diagnostic.bytes .ansi .standard .empty)
    (∀ d ∈ ds, ∀ span, (runOn (.new none) ((d.page .standard .empty).print .ansi)).1 ≠
      .error (.reversedSpan span)) ∧
    full.length = 88 ∧ (full.drop 80).take 2 = utf8 "ü" ∧
    runOn (.new (some 81)) (printDiagnostics .ansi .standard .empty ds) =
      (.error .sinkFull, ⟨some 0, full.take 81⟩) ∧
    runOn (.new (some 88)) (printDiagnostics .ansi .standard .empty ds) = (.ok (), ⟨some 0, full⟩) := by
  intro ds full
  have hruns : ∀ d ∈ ds, ∀ span, (runOn (.new none) ((d.page .standard .empty).print .ansi)).1 ≠
      .error (.reversedSpan span) := by
    intro d hd
    apply Page.isPrintable_iff.1
    rw [show d = .bare .note none "ü" by simpa [ds] using hd]
    exact List.forall_mem_cons.2 ⟨id, List.forall_mem_singleton.2 id⟩
  have hlength : full.length = 88 := by decide +kernel
  have hmiddle : (full.drop 80).take 2 = utf8 "ü" := by decide +kernel
  have hcut := (printing_bounded hruns 81).2
  have hwhole := (printing_bounded hruns 88).2
  rw [show ds.flatMap _ = full from rfl, hlength] at hcut hwhole
  rw [List.take_of_length_le (Nat.le_of_eq hlength)] at hwhole
  exact ⟨hruns, hlength, hmiddle, hcut, hwhole⟩

end Diagnostics

end NominalCheck
