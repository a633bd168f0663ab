import NominalCheck.Diagnostic.Page

/-!
# Printing pages

A row is printed as a sequence of pieces, each plain or coloured. With `Mode.plain` the pieces are
written as they are; with `Mode.ansi` a coloured piece is wrapped in escape sequences: reset, bold,
colour, and reset again after the text.

Pieces go into a `Sink`, which may take only so many bytes. Printing stops at the first byte that
does not fit, with everything before it written, or at a row that cannot be printed.
-/

namespace NominalCheck

/-! ### Pieces -/

/-- The colours that are used. -/
inductive Color where
  | red | green | yellow | blue | cyan | white
deriving DecidableEq, Repr, Inhabited

/-- The digit that selects a colour in an escape sequence. -/
def Color.digit : Color → String
  | red => "1"
  | green => "2"
  | yellow => "3"
  | blue => "4"
  | cyan => "6"
  | white => "7"

/-- The colour of a message's word and underlines. -/
def Severity.color : Severity → Color
  | error => .red
  | warning => .yellow
  | note => .cyan
  | help => .green

/-- A text that is printed in one go. -/
inductive Piece where
  | plain (text : String)
  | coloured (color : Color) (text : String)
deriving DecidableEq, Repr, Inhabited

/-- Whether colours are shown. -/
inductive Mode where
  | plain
  | ansi
deriving DecidableEq, Repr, Inhabited

/-- The escape sequence with the given number. -/
def escape (number : String) : String := "\x1b[" ++ number ++ "m"

/-- The texts that are written for a piece. -/
def Piece.writes : Mode → Piece → List String
  | _, plain text => [text]
  | .plain, coloured _ text => [text]
  | .ansi, coloured color text =>
    [escape "0", escape "1", escape ("3" ++ color.digit), text, escape "0"]

/-! ### Rows -/

/-- So many spaces. -/
def spaces (n : Nat) : String := String.ofList (List.replicate n ' ')

/-- A number, moved to the right of a field. -/
def alignRight (width n : Nat) : String := spaces (width - digitCount n) ++ toString n

/-- How a row is spelled, with a left margin of the given width. A row that cannot be printed is not
spelled at all. -/
def Row.pieces (gutter : Nat) : Row → List Piece
  | header severity code message =>
    let tag := (code.map fun c ↦ "[" ++ c ++ "]").getD ""
    [.coloured severity.color (severity.word ++ tag), .coloured .white (": " ++ message),
     .plain "\n"]
  | location file position =>
    [.plain (spaces gutter ++ s!"--> {file}:{position.line}:{position.column}\n")]
  | byteRange span =>
    [.plain (spaces gutter ++ s!"--> {span.file} (bytes {span.start}..{span.stop})\n")]
  | rule => [.plain (spaces gutter ++ " |\n")]
  | source number line =>
    [.coloured .blue (alignRight gutter number), .plain (" | " ++ line ++ "\n")]
  | underline severity indent length message =>
    let marks := String.ofList (List.replicate length severity.marker)
    let remark :=
      if message = "" then [] else [.plain " ", .coloured severity.color message]
    [.plain (spaces gutter ++ " | " ++ spaces indent), .coloured severity.color marks] ++
      remark ++ [.plain "\n"]
  | remark severity message =>
    [.plain (spaces gutter ++ " = "), .coloured severity.color severity.word,
     .plain (": " ++ message ++ "\n")]
  | docs url => [.plain (spaces gutter ++ " = docs: " ++ url ++ "\n")]
  | blank => [.plain "\n"]
  | reversed _ => []

/-! ### Sinks -/

/-- The bytes of a text. -/
def utf8 (text : String) : List UInt8 := text.toList.flatMap String.utf8EncodeChar

/-- Where bytes are written to. -/
structure Sink where
  /-- How many more bytes it takes, if there is a bound. -/
  room : Option Nat
  /-- The bytes written so far. -/
  written : List UInt8
deriving DecidableEq, Repr, Inhabited

/-- The empty sink that takes so many bytes. -/
def Sink.new (room : Option Nat) : Sink := ⟨room, []⟩

/-- Writes as many of the bytes as there is room for. -/
def Sink.write (sink : Sink) (bytes : List UInt8) : Sink where
  room := sink.room.map (· - bytes.length)
  written := sink.written ++ (sink.room.map bytes.take).getD bytes

/-- Whether there is room for so many bytes. -/
def Sink.takes (sink : Sink) (count : Nat) : Bool :=
  (sink.room.map fun room ↦ decide (count ≤ room)).getD true

/-! ### Printing -/

/-- Why printing stops early. -/
inductive PrintFault where
  /-- The sink is full. -/
  | sinkFull
  /-- A span that ends on an earlier line than it starts on was to be shown. -/
  | reversedSpan (span : SourceSpan)
deriving DecidableEq, Repr, Inhabited

/-- Computations that print into a sink and may stop early. -/
abbrev PrintM (α : Type) : Type := ExceptT PrintFault (StateM Sink) α

namespace PrintM

variable {α β : Type}

/-- The outcome of printing into a sink, and the sink afterwards. -/
def runOn (sink : Sink) (x : PrintM α) : Except PrintFault α × Sink := x.run.run sink

@[simp] theorem runOn_pure (sink : Sink) (a : α) : runOn sink (pure a) = (.ok a, sink) := rfl

@[simp] theorem runOn_throw (sink : Sink) (fault : PrintFault) :
    runOn sink (throw fault : PrintM α) = (.error fault, sink) := rfl

/-- What follows prints into the sink as it was left, unless printing has stopped. -/
theorem runOn_bind (sink : Sink) (x : PrintM α) (f : α → PrintM β) :
    runOn sink (x >>= f) =
      match runOn sink x with
      | (.ok a, sink') => runOn sink' (f a)
      | (.error fault, sink') => (.error fault, sink') := by
  simp only [runOn, ExceptT.run_bind, StateT.run_bind]
  rcases x.run.run sink with ⟨_ | _, _⟩ <;> rfl

end PrintM

/-- Writes a text, as far as there is room. -/
def putText (text : String) : PrintM Unit := fun sink ↦
  let bytes := utf8 text
  (if sink.takes bytes.length then .ok () else .error .sinkFull, sink.write bytes)

/-- Prints a piece. -/
def Piece.print (mode : Mode) (piece : Piece) : PrintM Unit := (piece.writes mode).forM putText

/-- Prints a row, with a left margin of the given width. -/
def Row.print (mode : Mode) (gutter : Nat) : Row → PrintM Unit
  | reversed span => throw (.reversedSpan span)
  | row => (row.pieces gutter).forM (Piece.print mode)

/-- Prints a page row by row. -/
def Page.print (mode : Mode) (page : Page) : PrintM Unit :=
  page.rows.forM (Row.print mode page.gutter)

/-- Prints diagnostics one after the other. -/
def printDiagnostics (mode : Mode) (options : PageOptions) (sources : Sources)
    (diagnostics : List Diagnostic) : PrintM Unit :=
  diagnostics.forM fun d ↦ (d.page options sources).print mode

end NominalCheck
