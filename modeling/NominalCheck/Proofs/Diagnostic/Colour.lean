import NominalCheck.Proofs.Diagnostic.Alignment
import NominalCheck.Proofs.Source.Extents
import NominalCheck.Proofs.Table

/-!
# Colours do not change what is shown

A terminal reads bytes one after the other: where an escape sequence begins it takes the whole of it, and
any other byte it shows (`tokens`). With colours, a page is written with escape sequences around its
coloured pieces. Taken out again, they leave **the bytes of the page without colours**, and the last of
them is the one that ends all colouring (`printing_coloured`).

This rests on where escape sequences can begin. No text that comes from outside may hold the character
that begins one; then no byte of its encoding does either, since a character of several bytes has no byte
in common with ASCII. So a terminal finds exactly the sequences that were written, however the texts
around them look.
-/

namespace NominalCheck

open PrintM

/-! ### What a terminal reads -/

/-- What a terminal reads: a byte to show, or an escape sequence with its number in digits. -/
inductive Token where
  | byte (b : UInt8)
  | escape (digits : List UInt8)
deriving DecidableEq, Repr

/-- The byte is an ASCII digit. -/
def isDigitByte (b : UInt8) : Bool := 0x30 ≤ b && b ≤ 0x39

/-- The digits of the escape sequence that the bytes begin with, if they do: `ESC [`, the digits, `m`. -/
def escapeDigits? : List UInt8 → Option (List UInt8)
  | 0x1b :: 0x5b :: bytes =>
    if (bytes.dropWhile isDigitByte).head? = some 0x6d then some (bytes.takeWhile isDigitByte) else none
  | _ => none

/-- Reads bytes, of which the first few belong to an escape sequence that has been read already. -/
def tokensAfter : (skipped : Nat) → List UInt8 → List Token
  | _, [] => []
  | skipped + 1, _ :: bytes => tokensAfter skipped bytes
  | 0, b :: bytes =>
    match escapeDigits? (b :: bytes) with
    | some digits => .escape digits :: tokensAfter (digits.length + 2) bytes
    | none => .byte b :: tokensAfter 0 bytes

/-- Reads bytes as a terminal does. -/
def tokens (bytes : List UInt8) : List Token := tokensAfter 0 bytes

/-- The byte that is shown. -/
def Token.byte? : Token → Option UInt8
  | byte b => some b
  | escape _ => none

/-- The number of the escape sequence. -/
def Token.digits? : Token → Option (List UInt8)
  | byte _ => none
  | escape digits => some digits

/-- The bytes without the escape sequences in them. -/
def stripEscapes (bytes : List UInt8) : List UInt8 := (tokens bytes).filterMap Token.byte?

/-- The numbers of the escape sequences. -/
def escapeNumbers (bytes : List UInt8) : List (List UInt8) := (tokens bytes).filterMap Token.digits?

theorem tokensAfter_append (taken bytes : List UInt8) :
    tokensAfter taken.length (taken ++ bytes) = tokens bytes := by
  induction taken with
  | nil => rfl
  | cons b taken ih => exact ih

/-- A byte that begins no escape sequence is shown. -/
theorem tokens_cons_of_ne {b : UInt8} (h : b ≠ 0x1b) (bytes : List UInt8) :
    tokens (b :: bytes) = .byte b :: tokens bytes := by
  have hnone : escapeDigits? (b :: bytes) = none := by
    rw [escapeDigits?]
    intro rest heq
    exact h (List.cons.inj heq).1
  rw [tokens, tokensAfter, hnone]
  rfl

/-- Without an escape character, all bytes are shown. -/
theorem tokens_append_of_notMem {shown : List UInt8} (h : 0x1b ∉ shown) (bytes : List UInt8) :
    tokens (shown ++ bytes) = shown.map .byte ++ tokens bytes := by
  induction shown with
  | nil => rfl
  | cons b shown ih =>
    obtain ⟨hb, hrest⟩ := not_or.1 (List.mem_cons.not.1 h)
    rw [List.cons_append, tokens_cons_of_ne (Ne.symm hb), ih hrest]
    rfl

/-- An escape sequence is read as a whole. -/
theorem tokens_escape {digits : List UInt8} (h : digits.all isDigitByte) (bytes : List UInt8) :
    tokens (0x1b :: 0x5b :: (digits ++ 0x6d :: bytes)) = .escape digits :: tokens bytes := by
  rw [List.all_eq_true] at h
  have hstop : isDigitByte 0x6d = false := rfl
  have hdigits : escapeDigits? (0x1b :: 0x5b :: (digits ++ 0x6d :: bytes)) = some digits := by
    rw [escapeDigits?, List.dropWhile_append_of_pos h, List.takeWhile_append_of_pos h,
      List.dropWhile_cons_of_neg (by simp [hstop]), List.takeWhile_cons_of_neg (by simp [hstop])]
    simp
  have hskip := tokensAfter_append (0x5b :: digits ++ [0x6d]) bytes
  simp only [List.length_append, List.length_cons, List.length_nil, List.cons_append, List.append_assoc,
    List.nil_append] at hskip
  rw [tokens, tokensAfter, hdigits]
  exact congrArg _ hskip

/-! ### Texts without escapes -/

/-- The text does not hold the character that begins an escape sequence. -/
def EscapeFree (text : String) : Prop := '\x1b' ∉ text.toList

instance : DecidablePred EscapeFree := fun text ↦ inferInstanceAs (Decidable ('\x1b' ∉ text.toList))

@[simp] theorem escapeFree_append {s t : String} :
    EscapeFree (s ++ t) ↔ EscapeFree s ∧ EscapeFree t := by
  rw [EscapeFree, String.toList_append, List.mem_append, not_or]
  rfl

theorem escapeFree_replicate {c : Char} (h : '\x1b' ≠ c) (n : Nat) :
    EscapeFree (String.ofList (List.replicate n c)) := by
  rw [EscapeFree, String.toList_ofList, List.mem_replicate]
  exact fun hmem ↦ h hmem.2

@[simp] theorem escapeFree_spaces (n : Nat) : EscapeFree (spaces n) :=
  escapeFree_replicate (by decide) n

@[simp] theorem escapeFree_repr (n : Nat) : EscapeFree n.repr := by
  intro hmem
  rw [Nat.toList_repr] at hmem
  have hdigit := Nat.isDigit_of_mem_toDigits (by decide) (by decide) hmem
  exact absurd hdigit (by decide)

/-- Only the escape character is encoded with its byte: the bytes of a longer character are all
above ASCII. -/
theorem escape_notMem_utf8EncodeChar {c : Char} (h : c ≠ '\x1b') :
    0x1b ∉ String.utf8EncodeChar c := by
  have hval : c.val.toNat ≠ 0x1b := fun heq ↦ h (Char.ext (UInt32.toNat_inj.1 heq))
  have hne {n : Nat} (h : n % 256 ≠ 0x1b) : (0x1b : UInt8) ≠ UInt8.ofNat n := fun heq ↦
    h (by simpa using (congrArg UInt8.toNat heq).symm)
  unfold String.utf8EncodeChar
  dsimp only
  split_ifs <;> simp only [List.mem_cons, List.not_mem_nil, or_false, not_or]
  · exact hne (by omega)
  · exact ⟨hne (by omega), hne (by omega)⟩
  · exact ⟨hne (by omega), hne (by omega), hne (by omega)⟩
  · exact ⟨hne (by omega), hne (by omega), hne (by omega), hne (by omega)⟩

theorem EscapeFree.notMem_utf8 {text : String} (h : EscapeFree text) : 0x1b ∉ utf8 text := by
  rw [utf8, List.mem_flatMap]
  rintro ⟨c, hc, hmem⟩
  exact escape_notMem_utf8EncodeChar (fun heq ↦ h (heq ▸ hc)) hmem

/-! ### Pieces -/

/-- The text of a piece. -/
def Piece.text : Piece → String
  | plain text => text
  | coloured _ text => text

/-- What a terminal reads of a piece that is written with colours. -/
def Piece.tokens : Piece → List Token
  | plain text => (utf8 text).map .byte
  | coloured color text =>
    [.escape (utf8 "0"), .escape (utf8 "1"), .escape (utf8 ("3" ++ color.digit))] ++
      (utf8 text).map .byte ++ [.escape (utf8 "0")]

/-- An escape that is written is read back as one, with its number. -/
theorem tokens_utf8_escape {number : String} (h : (utf8 number).all isDigitByte)
    (bytes : List UInt8) :
    tokens (utf8 (escape number) ++ bytes) = .escape (utf8 number) :: tokens bytes := by
  have hescape : utf8 (escape number) = 0x1b :: 0x5b :: (utf8 number ++ [0x6d]) := by
    rw [escape, utf8_append, utf8_append]
    rfl
  rw [hescape, ← tokens_escape h]
  simp only [List.cons_append, List.append_assoc, List.nil_append]

/-- A piece that is written is read back as its text, and around it the colour and the reset if it
is a coloured one. -/
theorem tokens_writes {piece : Piece} (h : EscapeFree piece.text) (bytes : List UInt8) :
    tokens (utf8 (String.join (piece.writes .ansi)) ++ bytes) = piece.tokens ++ tokens bytes := by
  cases piece with
  | plain text =>
    simp only [Piece.writes, String.join_cons, String.join_nil, String.append_empty]
    exact tokens_append_of_notMem (EscapeFree.notMem_utf8 h) bytes
  | coloured color text =>
    have hreset : (utf8 "0").all isDigitByte := by decide
    have hbold : (utf8 "1").all isDigitByte := by decide
    have hcolor : (utf8 ("3" ++ color.digit)).all isDigitByte := by cases color <;> decide
    have htext : 0x1b ∉ utf8 text := EscapeFree.notMem_utf8 h
    simp only [Piece.writes, String.join_cons, String.join_nil, utf8_append, List.append_assoc]
    rw [tokens_utf8_escape hreset, tokens_utf8_escape hbold, tokens_utf8_escape hcolor,
      tokens_append_of_notMem htext, tokens_utf8_escape hreset]
    simp only [Piece.tokens, List.append_assoc, List.cons_append, List.nil_append]
    rfl

/-- Pieces are read one after the other. -/
theorem tokens_pieces {pieces : List Piece} (h : ∀ piece ∈ pieces, EscapeFree piece.text) :
    tokens (utf8 (String.join (pieces.flatMap (Piece.writes .ansi)))) =
      pieces.flatMap Piece.tokens := by
  induction pieces with
  | nil => rfl
  | cons piece pieces ih =>
    rw [List.flatMap_cons, String.join_append, utf8_append, tokens_writes (h piece List.mem_cons_self),
      ih fun other hother ↦ h other (List.mem_cons_of_mem _ hother), List.flatMap_cons]

/-- Without their escape sequences, coloured pieces are what they are without colours. -/
theorem stripEscapes_pieces {pieces : List Piece} (h : ∀ piece ∈ pieces, EscapeFree piece.text) :
    stripEscapes (utf8 (String.join (pieces.flatMap (Piece.writes .ansi)))) =
      utf8 (String.join (pieces.flatMap (Piece.writes .plain))) := by
  rw [stripEscapes, tokens_pieces h]
  induction pieces with
  | nil => rfl
  | cons piece pieces ih =>
    have hbytes (text : String) : ((utf8 text).map Token.byte).filterMap Token.byte? = utf8 text := by
      rw [List.filterMap_map]
      exact List.filterMap_some
    have hpiece : piece.tokens.filterMap Token.byte? = utf8 (String.join (piece.writes .plain)) := by
      cases piece with
      | plain text => simp [Piece.tokens, Piece.writes, hbytes]
      | coloured color text => simp [Piece.tokens, Piece.writes, hbytes, List.filterMap_cons, Token.byte?]
    rw [List.flatMap_cons, List.filterMap_append, hpiece,
      ih fun other hother ↦ h other (List.mem_cons_of_mem _ hother), List.flatMap_cons,
      String.join_append, utf8_append]

/-- The last escape sequence of coloured pieces is the one that ends all colouring. -/
theorem getLast?_escapeNumbers_pieces {pieces : List Piece}
    (h : ∀ piece ∈ pieces, EscapeFree piece.text) {digits : List UInt8}
    (hlast : (escapeNumbers (utf8 (String.join (pieces.flatMap (Piece.writes .ansi))))).getLast? =
      some digits) : digits = utf8 "0" := by
  rw [escapeNumbers, tokens_pieces h] at hlast
  induction pieces with
  | nil => cases hlast
  | cons piece pieces ih =>
    rw [List.flatMap_cons, List.filterMap_append, List.getLast?_append, Option.or_eq_some_iff] at hlast
    rcases hlast with hrest | ⟨-, hpiece⟩
    · exact ih (fun other hother ↦ h other (List.mem_cons_of_mem _ hother)) hrest
    · cases piece with
      | plain text =>
        have hnone : (Piece.plain text).tokens.filterMap Token.digits? = [] := by
          simp [Piece.tokens, Token.digits?]
        rw [hnone] at hpiece
        cases hpiece
      | coloured color text =>
        rw [Piece.tokens, List.filterMap_append, List.getLast?_append] at hpiece
        exact (Option.some.inj hpiece).symm

/-! ### Rows -/

/-- The texts in a row that come from outside. -/
def Row.texts : Row → List String
  | header _ code message => code.toList ++ [message]
  | location file _ => [file]
  | byteRange span => [span.file]
  | source _ line => [line]
  | underline _ _ _ message => [message]
  | remark _ message => [message]
  | docs url => [url]
  | rule | blank | reversed _ => []

theorem Severity.escapeFree_word (severity : Severity) : EscapeFree severity.word := by
  cases severity <;> decide

theorem Severity.escapeFree_marks (severity : Severity) (n : Nat) :
    EscapeFree (String.ofList (List.replicate n severity.marker)) := by
  cases severity <;> exact escapeFree_replicate (by decide) n

/-- A row is free of escapes if the texts it is made from are: the page itself adds nothing but
marks, spaces and numbers. -/
theorem Row.escapeFree_pieces {row : Row} (h : ∀ text ∈ row.texts, EscapeFree text) (gutter : Nat) :
    ∀ piece ∈ row.pieces gutter, EscapeFree piece.text := by
  cases row with
  | header severity code message =>
    cases code <;> simp_all +decide [texts, pieces, Piece.text, Severity.escapeFree_word]
  | location file position =>
    have hfile : EscapeFree (toString file) := h file List.mem_cons_self
    simp +decide [pieces, Piece.text, hfile]
  | byteRange span =>
    have hfile : EscapeFree (toString span.file) := h span.file List.mem_cons_self
    simp +decide [pieces, Piece.text, hfile]
  | source => simp_all +decide [texts, pieces, Piece.text, alignRight]
  | rule | docs | blank | reversed => simp_all +decide [texts, pieces, Piece.text]
  | underline severity indent length message =>
    by_cases hmessage : message = "" <;>
      simp_all +decide [texts, pieces, Piece.text, Severity.escapeFree_marks]
  | remark severity message => simp_all +decide [texts, pieces, Piece.text, Severity.escapeFree_word]

/-! ### Diagnostics -/

/-- The texts of a diagnostic that are shown. Of the remarks attached to it these are the messages. -/
def Diagnostic.texts (d : Diagnostic) : List String :=
  d.code.toList ++ [d.message] ++ d.labels.flatMap (fun label ↦ [label.span.file, label.message]) ++
    d.suggestions.map Suggestion.message ++ d.children.map Diagnostic.message

theorem Diagnostic.mem_texts_of_mem_labels {d : Diagnostic} {label : Label} (h : label ∈ d.labels) :
    label.span.file ∈ d.texts ∧ label.message ∈ d.texts := by
  have hboth : ∀ text ∈ [label.span.file, label.message], text ∈ d.texts := fun text htext ↦
    List.mem_append_left _ (List.mem_append_left _
      (List.mem_append_right _ (List.mem_flatMap.2 ⟨label, h, htext⟩)))
  exact ⟨hboth _ List.mem_cons_self, hboth _ (List.mem_cons_of_mem _ List.mem_cons_self)⟩

/-- A line has only characters of its text. -/
theorem subset_of_mem_splitLines {cs line : List Char} (h : line ∈ splitLines cs) : line ⊆ cs := by
  rw [← map_text_textLines 0, List.mem_map] at h
  obtain ⟨textLine, hmem, rfl⟩ := h
  intro c hc
  rw [← flatMap_chars_textLines 0 cs]
  exact List.mem_flatMap.2 ⟨textLine, hmem, List.mem_append_left _ hc⟩

/-- A resolved span is about the same file, and its lines are lines of the file's text. -/
theorem Sources.lines_subset_of_resolve {sources : Sources} {span : SourceSpan} {r : ResolvedSpan}
    (h : sources.resolve span = .resolved r) :
    r.span = span ∧ ∃ text, sources.get? span.file = some text ∧
      ∀ line ∈ r.lines, line.toList ⊆ text.toList := by
  rw [resolve] at h
  cases htext : sources.get? span.file with
  | none => simp [htext] at h
  | some text =>
    simp only [htext, SourceSpan.resolveIn] at h
    split at h
    · cases h
    · cases h
      refine ⟨rfl, text, rfl, fun line hline ↦ ?_⟩
      obtain ⟨chars, hchars, rfl⟩ := List.mem_map.1 hline
      rw [String.toList_ofList]
      exact subset_of_mem_splitLines (List.mem_of_mem_drop (List.mem_of_mem_take hchars))

section Diagnostics

variable {d : Diagnostic} {options : PageOptions} {sources : Sources}
  (hd : ∀ text ∈ d.texts, EscapeFree text)
  (hsources : ∀ file text, sources.get? file = some text → EscapeFree text)

include hd

/-- An underline carries the message of its label, which is one of the texts of the diagnostic. -/
theorem Label.escapeFree_underlineRows {label : Label} (hlabel : label ∈ d.labels) {severity : Severity}
    {row : Row} (hrow : row ∈ label.underlineRows sources severity) :
    ∀ text ∈ row.texts, EscapeFree text := by
  rw [underlineRows] at hrow
  cases hr : sources.resolve label.span with
  | unavailable => simp [hr] at hrow
  | reversed =>
    simp only [hr, List.mem_singleton] at hrow
    subst hrow
    exact List.forall_mem_nil _
  | resolved r =>
    cases hlines : r.lines with
    | nil => simp [hr, hlines] at hrow
    | cons line lines =>
      simp only [hr, hlines, List.mem_singleton] at hrow
      subst hrow
      exact List.forall_mem_singleton.2 (hd _ (Diagnostic.mem_texts_of_mem_labels hlabel).2)

theorem Diagnostic.escapeFree_remarkRows {row : Row} (hrow : row ∈ d.remarkRows) :
    ∀ text ∈ row.texts, EscapeFree text := by
  rcases List.mem_append.1 hrow with hrow | hrow
  · obtain ⟨suggestion, hmem, rfl⟩ := List.mem_map.1 hrow
    have hopening : EscapeFree suggestion.applicability.opening := by
      cases suggestion.applicability <;> decide
    have hmessage : EscapeFree suggestion.message :=
      hd _ (List.mem_append_left _ (List.mem_append_right _ (List.mem_map_of_mem hmem)))
    exact List.forall_mem_singleton.2 (escapeFree_append.2 ⟨hopening, hmessage⟩)
  · obtain ⟨child, hmem, rfl⟩ := List.mem_map.1 hrow
    have hmessage : EscapeFree child.message :=
      hd _ (List.mem_append_right _ (List.mem_map_of_mem hmem))
    exact List.forall_mem_singleton.2 hmessage

theorem Diagnostic.escapeFree_docsRows (hurl : EscapeFree options.docsBaseUrl) {row : Row}
    (hrow : row ∈ d.docsRows options) : ∀ text ∈ row.texts, EscapeFree text := by
  rw [docsRows] at hrow
  split at hrow
  · obtain ⟨url, hmem, rfl⟩ := Option.map_eq_some_iff.1 (Option.mem_toList.1 hrow)
    obtain ⟨code, hcode, rfl⟩ := Option.map_eq_some_iff.1 hmem
    have hfree : EscapeFree code := hd _ (by simp [texts, hcode])
    have hslash : EscapeFree "/" := by decide
    exact List.forall_mem_singleton.2
      (escapeFree_append.2 ⟨escapeFree_append.2 ⟨hurl, hslash⟩, hfree⟩)
  · cases hrow

include hsources

/-- All of an excerpt comes from the diagnostic and from lines of the sources. -/
theorem Diagnostic.escapeFree_excerptRows {row : Row} (hrow : row ∈ d.excerptRows sources) :
    ∀ text ∈ row.texts, EscapeFree text := by
  rw [excerptRows] at hrow
  cases hspan : d.primary? with
  | none => simp [hspan] at hrow
  | some span =>
    obtain ⟨label, hlabel, rfl⟩ := Option.map_eq_some_iff.1 hspan
    have hfile := hd _ (mem_texts_of_mem_labels (List.mem_of_head? hlabel)).1
    cases hr : sources.resolve label.span with
    | unavailable =>
      simp only [hspan, hr, List.mem_singleton] at hrow
      subst hrow
      exact List.forall_mem_singleton.2 hfile
    | reversed =>
      simp only [hspan, hr, List.mem_singleton] at hrow
      subst hrow
      exact List.forall_mem_nil _
    | resolved r =>
      obtain ⟨hsame, text, htext, hlines⟩ := Sources.lines_subset_of_resolve hr
      simp only [hspan, hr, List.mem_append, List.mem_cons, List.not_mem_nil, or_false] at hrow
      rcases hrow with ((rfl | rfl) | hrow) | hrow
      · rw [hsame]
        exact List.forall_mem_singleton.2 hfile
      · exact List.forall_mem_nil _
      · obtain ⟨⟨line, number⟩, hmem, rfl⟩ := List.mem_map.1 hrow
        have hline := hlines line (List.fst_mem_of_mem_zipIdx hmem)
        exact List.forall_mem_singleton.2 fun hescape ↦ hsources _ text htext (hline hescape)
      · obtain ⟨other, hother, hrow⟩ := List.mem_flatMap.1 hrow
        exact Label.escapeFree_underlineRows hd hother hrow

/-- No row of a page has an escape in it. -/
theorem Diagnostic.escapeFree_rows (hurl : EscapeFree options.docsBaseUrl) :
    ∀ row ∈ (d.page options sources).rows, ∀ text ∈ row.texts, EscapeFree text := by
  intro row hrow
  simp only [page, List.mem_append, List.mem_singleton] at hrow
  rcases hrow with (((rfl | hrow) | hrow) | hrow) | rfl
  · intro text htext
    exact hd text (List.mem_append_left _ (List.mem_append_left _ (List.mem_append_left _ htext)))
  · exact escapeFree_excerptRows hd hsources hrow
  · exact escapeFree_remarkRows hd hrow
  · exact escapeFree_docsRows hd hurl hrow
  · exact List.forall_mem_nil _

end Diagnostics

/-- The pieces that diagnostics are printed in. -/
def diagnosticPieces (options : PageOptions) (sources : Sources) (ds : List Diagnostic) : List Piece :=
  ds.flatMap fun d ↦ (d.page options sources).rows.flatMap (Row.pieces (d.page options sources).gutter)

/-- All that is written is written piece by piece, in colour or not. -/
theorem diagnosticWrites_eq_flatMap (mode : Mode) (options : PageOptions) (sources : Sources)
    (ds : List Diagnostic) :
    diagnosticWrites mode options sources ds =
      (diagnosticPieces options sources ds).flatMap (Piece.writes mode) := by
  simp only [diagnosticWrites, diagnosticPieces, Page.writes, List.flatMap_assoc]
  rfl

/-- **Colours do not change what is shown.** Let no text of the diagnostics, of the files or of the
address of the documentation hold an escape, and let printing not stop at a reversed span. Then what is
printed with colours is, without its escape sequences, what is printed without colours; and the last of
the sequences, if there is one, ends all colouring. -/
theorem printing_coloured {ds : List Diagnostic} {options : PageOptions} {sources : Sources}
    {mode : Mode} (hds : ∀ d ∈ ds, ∀ text ∈ d.texts, EscapeFree text)
    (hurl : EscapeFree options.docsBaseUrl)
    (hsources : ∀ file text, sources.get? file = some text → EscapeFree text)
    (hruns : ∀ span, (runOn (.new none) (printDiagnostics mode options sources ds)).1 ≠
      .error (.reversedSpan span)) :
    ∃ coloured plain,
      runOn (.new none) (printDiagnostics .ansi options sources ds) = (.ok (), ⟨none, coloured⟩) ∧
      runOn (.new none) (printDiagnostics .plain options sources ds) = (.ok (), ⟨none, plain⟩) ∧
        stripEscapes coloured = plain ∧
          ∀ digits, (escapeNumbers coloured).getLast? = some digits → digits = utf8 "0" := by
  have hprintable := isPrintable_of_forall_ne hruns
  have hpieces : ∀ piece ∈ diagnosticPieces options sources ds, EscapeFree piece.text := by
    intro piece hpiece
    obtain ⟨d, hd, hpiece⟩ := List.mem_flatMap.1 hpiece
    obtain ⟨row, hrow, hpiece⟩ := List.mem_flatMap.1 hpiece
    have hrow := Diagnostic.escapeFree_rows (hds d hd) hsources hurl row hrow
    exact Row.escapeFree_pieces hrow _ piece hpiece
  refine ⟨_, _, runOn_printDiagnostics hprintable, runOn_printDiagnostics hprintable, ?_, ?_⟩
  · rw [diagnosticWrites_eq_flatMap, diagnosticWrites_eq_flatMap, stripEscapes_pieces hpieces]
  · rw [diagnosticWrites_eq_flatMap]
    exact fun digits ↦ getLast?_escapeNumbers_pieces hpieces

/-- A text with a misspelled name. -/
def misspelledSources : Sources := .ofList [("main.py", "print(cüont)\n")]

/-- The message on it, with a proposal and a remark. -/
def misspelledDiagnostic : Diagnostic where
  severity := .error
  code := some "E1001"
  message := "unresolved name"
  labels := [⟨⟨⟨6, 12⟩, "main.py"⟩, "not found"⟩]
  suggestions := [⟨"using `count`", .maybeIncorrect, []⟩]
  children := [.bare .note none "names are declared before use"]

/-- The rows that the message is printed in. -/
def misspelledRows : List String :=
  ["error[E1001]: unresolved name\n",
   " --> main.py:1:7\n",
   "  |\n",
   "1 | print(cüont)\n",
   "  |       ^^^^^ not found\n",
   "  = help: consider using `count`\n",
   "  = note: names are declared before use\n",
   "  = docs: docs/E1001\n",
   "\n"]

/-- Printed with colours, the message is shown in these rows. -/
theorem printing_coloured_misspelledDiagnostic :
    ∃ coloured, runOn (.new none) (printDiagnostics .ansi ⟨true, "docs"⟩ misspelledSources
        [misspelledDiagnostic]) = (.ok (), ⟨none, coloured⟩) ∧
      stripEscapes coloured = utf8 (String.join misspelledRows) := by
  have hds : ∀ d ∈ [misspelledDiagnostic], ∀ text ∈ d.texts, EscapeFree text := by
    rw [List.forall_mem_singleton]
    decide
  have hsources : ∀ file text, misspelledSources.get? file = some text → EscapeFree text := by
    intro file text htext
    have hmem := List.mem_singleton.1 (Table.mem_of_get?_ofList htext)
    rw [(Prod.mk.inj hmem).2]
    decide
  have hle : ∀ label ∈ misspelledDiagnostic.labels, label.span.start ≤ label.span.stop := by decide
  have hpage : misspelledDiagnostic.page ⟨true, "docs"⟩ misspelledSources =
      ⟨1, [.header .error (some "E1001") "unresolved name", .location "main.py" ⟨1, 7⟩, .rule,
        .source 1 "print(cüont)", .underline .error 6 5 "not found",
        .remark .help "consider using `count`", .remark .note "names are declared before use",
        .docs "docs/E1001", .blank]⟩ := by decide
  have hplain := misspelledDiagnostic.runOn_print_plain hle ⟨true, "docs"⟩ misspelledSources
  have hrows : ((misspelledDiagnostic.page ⟨true, "docs"⟩ misspelledSources).rows.map
      (Row.text (misspelledDiagnostic.page ⟨true, "docs"⟩ misspelledSources).gutter)) =
        misspelledRows := by
    rw [hpage]
    decide
  rw [hrows] at hplain
  have hruns : ∀ span, (runOn (.new none) (printDiagnostics .plain ⟨true, "docs"⟩ misspelledSources
      [misspelledDiagnostic])).1 ≠ .error (.reversedSpan span) := by
    rw [hplain]
    exact fun _ ↦ nofun
  obtain ⟨coloured, plain, hcoloured, hplain', hstrip, -⟩ :=
    printing_coloured hds (by decide) hsources hruns
  have hsame := (Sink.mk.inj (Prod.mk.inj (hplain.symm.trans hplain')).2).2
  exact ⟨coloured, hcoloured, hstrip.trans hsame.symm⟩

end NominalCheck
