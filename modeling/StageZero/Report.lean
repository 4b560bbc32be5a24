import StageZero.Diagnostic

/-!
# Reports

A report gathers the diagnostics over one source text, errors and warnings
apart, each in the order in which it was found. It knows the lines of the text,
so a diagnostic can quote the one it points into.
-/

namespace StageZero

/-- The diagnostics gathered over one source text. -/
structure Report where
  lines : List String
  hasSource : Bool
  errors : Array Diagnostic := #[]
  warnings : Array Diagnostic := #[]
  deriving DecidableEq

namespace Report

/-- The empty report over a source text. Over the empty text no line is known,
which is also how diagnostics without source are reported. -/
def ofSource (source : String) : Report :=
  { lines := Text.lines source, hasSource := source ≠ "" }

/-- The source line a position names, without carriage returns at its end; the
empty text when there is no such line. -/
def context (r : Report) (pos : Position) : String :=
  if r.hasSource && 0 < pos.line then
    match r.lines[(pos.line - 1).toNat]? with
    | some line => Text.dropEnd '\r' line
    | none => ""
  else ""

/-- The diagnostic for a token. The end of input has a name in place of its
value, which is empty. -/
def diagnose (r : Report) (code message : String) (tok : Token) : Diagnostic where
  code := code
  message := message
  pos := tok.pos
  tokenValue := if tok.kind = .eof then "end of file" else tok.value
  context := r.context tok.pos

def addError (r : Report) (d : Diagnostic) : Report :=
  { r with errors := r.errors.push d }

def addWarning (r : Report) (d : Diagnostic) : Report :=
  { r with warnings := r.warnings.push d }

def hasErrors (r : Report) : Bool :=
  !r.errors.isEmpty

/-- All diagnostics, errors first, as they are printed under their heading. -/
def text (r : Report) : String :=
  if r.errors.isEmpty && r.warnings.isEmpty then ""
  else
    let rule := Text.ruler '-' ++ "\n"
    let entry (d : Diagnostic) : String := "  " ++ d.format ++ "\n" ++ d.pointerLine
    "\n" ++ rule ++ "DIAGNOSTICS\n" ++ rule ++
      Text.concat ((r.errors ++ r.warnings).toList.map entry)

end Report

end StageZero
