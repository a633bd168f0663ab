import NominalCheck.Diagnostic.Basic
import NominalCheck.Text.Width

/-!
# Pages

A `Page` is a diagnostic laid out in rows: a headline, the place with an excerpt of the source, an
underline for every label, and the attached remarks. A row holds data, not text; how rows are
spelled and coloured is decided when they are printed.

The left margin of a page, its **gutter**, is as wide as the largest line number in the excerpt. An
underline is indented by the display width of what stands before the span on its first line.

A span that ends on an earlier line than it starts on cannot be laid out. Such a page still has the
rows that come before, and then the row `reversed`, past which nothing can be printed.
-/

namespace NominalCheck

/-- One row of a page. -/
inductive Row where
  /-- The headline of the message. -/
  | header (severity : Severity) (code : Option String) (message : String)
  /-- The place of the message, by line and column. -/
  | location (file : String) (position : Position)
  /-- The place of the message, by byte offsets. -/
  | byteRange (span : SourceSpan)
  /-- The empty row above the excerpt. -/
  | rule
  /-- A line of the source with its number. -/
  | source (number : Nat) (line : String)
  /-- The underline of a label: how far it is indented, how long it is, and the remark after it. -/
  | underline (severity : Severity) (indent length : Nat) (message : String)
  /-- An attached remark. -/
  | remark (severity : Severity) (message : String)
  /-- The address of the documentation. -/
  | docs (url : String)
  /-- The empty row at the end. -/
  | blank
  /-- A span that cannot be laid out. -/
  | reversed (span : SourceSpan)
deriving DecidableEq, Repr, Inhabited

/-- A diagnostic laid out in rows. -/
structure Page where
  /-- The width of the left margin. -/
  gutter : Nat
  /-- The rows, from top to bottom. -/
  rows : List Row
deriving DecidableEq, Repr, Inhabited

/-- What a page shows besides the message. -/
structure PageOptions where
  /-- The addresses of documentation are shown. -/
  showDocs : Bool
  /-- The address under which documentation is found. -/
  docsBaseUrl : String
deriving DecidableEq, Repr

namespace PageOptions

/-- Documentation is not shown. -/
def standard : PageOptions where
  showDocs := false
  docsBaseUrl := "https://serpent.dev/errors"

instance : Inhabited PageOptions := ⟨standard⟩

end PageOptions

/-- The number of decimal digits. -/
def digitCount (n : Nat) : Nat := (toString n).toList.length

/-! ### Underlines -/

/-- The columns before a span, on the first of its lines. -/
def ResolvedSpan.indent (r : ResolvedSpan) (line : List Char) : Nat :=
  displayWidth (line.take (r.start.column - 1))

/-- The columns that are underlined, on the first of a span's lines. A span that goes on to further
lines is underlined to the end of the first, and at least one column always is. -/
def ResolvedSpan.underlineLength (r : ResolvedSpan) (line : List Char) : Nat :=
  let stop := if r.isMultiline then line.length else r.stop.column - 1
  max 1 (displayWidth (line.take stop) - r.indent line)

/-- The underline of a label. There is none if the label's file is not at hand or the label stands
after the last line. -/
def Label.underlineRows (label : Label) (sources : Sources) (severity : Severity) : List Row :=
  match sources.resolve label.span with
  | .unavailable => []
  | .reversed => [.reversed label.span]
  | .resolved r =>
    match r.lines with
    | [] => []
    | line :: _ =>
      [.underline severity (r.indent line.toList) (r.underlineLength line.toList) label.message]

/-! ### The parts of a page -/

namespace Diagnostic

/-- The source lines of a resolved span, numbered. -/
def sourceRows (r : ResolvedSpan) : List Row :=
  (r.lines.zipIdx r.start.line).map fun e ↦ .source e.2 e.1

/-- The place of a message, with an excerpt of the source if it is at hand. -/
def excerptRows (d : Diagnostic) (sources : Sources) : List Row :=
  match d.primary? with
  | none => []
  | some span =>
    match sources.resolve span with
    | .unavailable => [.byteRange span]
    | .reversed => [.reversed span]
    | .resolved r =>
      [.location r.span.file r.start, .rule] ++ sourceRows r ++
        d.labels.flatMap fun label ↦ label.underlineRows sources d.severity

/-- What is attached to a message: suggestions, then remarks. -/
def remarkRows (d : Diagnostic) : List Row :=
  (d.suggestions.map fun s ↦ .remark .help s.fullMessage) ++
    d.children.map fun child ↦ .remark child.severity child.message

/-- The address of the documentation, if it is to be shown. -/
def docsRows (d : Diagnostic) (options : PageOptions) : List Row :=
  if options.showDocs then ((d.docsUrl? options.docsBaseUrl).map Row.docs).toList else []

/-- The width of the left margin. -/
def gutter (d : Diagnostic) (sources : Sources) : Nat :=
  match d.primary?.map sources.resolve with
  | some (.resolved r) => digitCount r.stop.line
  | _ => 1

/-- Lays a diagnostic out. Of the remarks attached to it only the first level is shown. -/
def page (d : Diagnostic) (options : PageOptions) (sources : Sources) : Page where
  gutter := d.gutter sources
  rows :=
    [.header d.severity d.code d.message] ++ d.excerptRows sources ++ d.remarkRows ++
      d.docsRows options ++ [.blank]

end Diagnostic

end NominalCheck
