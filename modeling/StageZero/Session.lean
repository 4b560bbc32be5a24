import StageZero.Compilation
import StageZero.Text.Blank
import StageZero.Text.Case

/-!
# Interactive sessions

A session is a program that grows line by line. Every new line is put after the
lines accepted so far and the whole is compiled again; what is shown is what
the compilation has beyond the one before. A fault at the end of input means
that a block is still open, so the line is kept until more lines close it. Any
other fault drops the lines that wait.

Commands are obeyed only while no line waits.
-/

namespace StageZero

/-- What a line can ask for besides being compiled. -/
inductive Command where
  | quit
  | debugOn
  | debugOff
  | showProgram
  | reset
  | nothing
  deriving DecidableEq

/-- The command a line is, blanks at its ends and case aside. -/
def Command.ofLine? (line : String) : Option Command :=
  match Text.lower (Text.trim line) with
  | "quit" | "exit" | "q" => some .quit
  | "debug on" => some .debugOn
  | "debug off" => some .debugOff
  | "show" => some .showProgram
  | "reset" => some .reset
  | "" => some .nothing
  | _ => none

def emptyDocument : String :=
  ({} : Output).document

/-- The state of a session. -/
structure Session where
  debug : Bool
  /-- The lines that have been accepted. -/
  accepted : List String := []
  /-- The lines that wait for a block to be closed. -/
  pending : List String := []
  /-- The main body that has been shown. -/
  shownMain : String := ""
  /-- The functions that have been shown. -/
  shownFunctions : String := ""
  /-- The number of warnings that have been shown. -/
  shownWarnings : Nat := 0
  /-- The program so far. -/
  document : String := emptyDocument
  deriving DecidableEq

/-- What a session answers to a line. -/
inductive Reply where
  /-- It prints something and goes on. -/
  | goOn (next : Session) (output : String)
  /-- It prints something and ends. -/
  | leave (output : String)
  deriving DecidableEq

namespace Session

/-- What is printed before the first line is read. -/
def welcome : String :=
  let rule := Text.ruler '=' ++ "\n"
  rule ++ "WEAR LANG STAGE-0 COMPILER - INTERACTIVE MODE\n" ++ rule ++
    "Commands:\n" ++
    "  <code>     - Translate a line of WeaR Lang\n" ++
    "  show       - Print the complete C program\n" ++
    "  reset      - Forget the session\n" ++
    "  debug on   - Enable debug mode\n" ++
    "  debug off  - Disable debug mode\n" ++
    "  quit       - Exit program\n" ++ rule

def prompt (s : Session) : String :=
  if s.pending.isEmpty then "wear> " else "...> "

def sourceText (lines : List String) : String :=
  Text.concat (lines.map (· ++ "\n"))

def obey (s : Session) : Command → Reply
  | .quit => .leave "Goodbye!\n"
  | .debugOn => .goOn { s with debug := true } "Debug mode enabled\n"
  | .debugOff => .goOn { s with debug := false } "Debug mode disabled\n"
  | .showProgram => .goOn s (s.document ++ "\n")
  | .reset => .goOn { debug := s.debug } "Session cleared\n"
  | .nothing => .goOn s ""

/-- New text as it is shown: nothing if there is none, and otherwise one line
break at its end. -/
def shownText (text : String) : String :=
  if text = "" then "" else Text.dropEnd '\n' text ++ "\n"

/-- What a compilation has beyond the one shown before: the text and the
warnings past the lengths of the old ones. -/
def news (s : Session) (c : Compilation) : String :=
  shownText (Text.drop s.shownFunctions.length c.functions) ++
    shownText (Text.drop s.shownMain.length c.main) ++
    Text.concat ((c.warnings.drop s.shownWarnings).map Diagnostic.warningText)

/-- The session after its lines have been compiled. -/
def adopt (s : Session) (lines : List String) (c : Compilation) : Session :=
  { debug := s.debug
    accepted := lines
    shownMain := c.main
    shownFunctions := c.functions
    shownWarnings := c.warnings.length
    document := c.document }

/-- A line of code is compiled after all lines before it. -/
def code (s : Session) (line : String) : Reply :=
  let lines := s.accepted ++ s.pending ++ [line]
  let outcome := compile s.debug (sourceText lines)
  match outcome.result with
  | .ok c => .goOn (s.adopt lines c) (outcome.trace ++ s.news c)
  | .error (.fault _ d tok) =>
    if tok.kind = .eof then .goOn { s with pending := s.pending ++ [line] } outcome.trace
    else .goOn { s with pending := [] } (outcome.trace ++ d.errorText)
  | .error _ => .goOn { s with pending := [] } outcome.trace

def step (s : Session) (line : String) : Reply :=
  if s.pending.isEmpty then
    match Command.ofLine? line with
    | some command => s.obey command
    | none => s.code line
  else s.code line

end Session

/-- One request for a line: what was printed since the last one, and the
prompt. -/
structure Turn where
  output : String
  prompt : String
  deriving DecidableEq

/-- A whole session: its turns, what is printed after the last of them, and
the number of lines that were never read. -/
structure Transcript where
  turns : List Turn
  farewell : String
  unread : Nat
  deriving DecidableEq

namespace Session

/-- A session that has printed something and is given the remaining lines. It
ends when it is told to or when the lines end. -/
def converse (s : Session) (printed : String) : List String → Transcript
  | [] => ⟨[⟨printed, s.prompt⟩], "\n", 0⟩
  | line :: rest =>
    match s.step line with
    | .leave output => ⟨[⟨printed, s.prompt⟩], output, rest.length⟩
    | .goOn next output =>
      let t := next.converse output rest
      { t with turns := ⟨printed, s.prompt⟩ :: t.turns }

def transcript (debug : Bool) (lines : List String) : Transcript :=
  ({ debug := debug } : Session).converse welcome lines

end Session

def Transcript.output (t : Transcript) : String :=
  Text.concat (t.turns.map (·.output)) ++ t.farewell

end StageZero
