import NominalCheck.Source.Position
import NominalCheck.Span
import NominalCheck.Table
import NominalCheck.Text.Lines

/-!
# Resolving spans

`Sources` holds the texts of the files that messages point into. Resolving a span against it gives
the positions of its two ends and the lines from the first of them to the second.

Two things can go wrong. The text of the file may not be at hand; then a message does without it.
Or the span may be reversed so far that it ends on an **earlier line** than it starts on, and then
there is no range of lines to show. A span that is reversed within one line has one.
-/

namespace NominalCheck

/-- A range of byte offsets in a file. -/
structure SourceSpan extends Span where
  /-- The file. -/
  file : String
deriving DecidableEq, Repr, Inhabited

/-- A span with the positions of its ends and the lines between them. -/
structure ResolvedSpan where
  /-- The span. -/
  span : SourceSpan
  /-- The position of its start. -/
  start : Position
  /-- The position of its stop. -/
  stop : Position
  /-- The lines from that of the start to that of the stop, as far as the text has them. -/
  lines : List String
deriving DecidableEq, Repr, Inhabited

/-- Whether the span reaches over more than one line. -/
def ResolvedSpan.isMultiline (r : ResolvedSpan) : Bool := r.start.line != r.stop.line

/-- The texts of files, by file name. -/
abbrev Sources : Type := Table String

/-- What resolving a span can give. -/
inductive Resolution where
  /-- The text of the file is not at hand. -/
  | unavailable
  /-- The span ends on an earlier line than it starts on. -/
  | reversed
  /-- The span is resolved. -/
  | resolved (r : ResolvedSpan)
deriving DecidableEq, Repr, Inhabited

/-- The lines with the numbers from `first` to `last`, counted from one. -/
def linesBetween (text : String) (first last : Nat) : List String :=
  (((splitLines text.toList).drop (first - 1)).take (last - first + 1)).map String.ofList

/-- Resolves a span in the text of its file. -/
def SourceSpan.resolveIn (span : SourceSpan) (text : String) : Resolution :=
  let start := positionAt text span.start
  let stop := positionAt text span.stop
  if stop.line < start.line then .reversed
  else .resolved ⟨span, start, stop, linesBetween text start.line stop.line⟩

/-- Resolves a span against the texts at hand. -/
def Sources.resolve (sources : Sources) (span : SourceSpan) : Resolution :=
  match sources.get? span.file with
  | some text => span.resolveIn text
  | none => .unavailable

end NominalCheck
