import StageZero.Generator.Expression

/-!
# The generator's state

Statements also write. What they write is kept line by line: the main body, a
stack of the function bodies being written, and the functions that are
finished. A line goes to the innermost body that is open, and to the main body
when none is.
-/

namespace StageZero

/-- The C written so far. -/
structure Output where
  /-- The lines of the main body. -/
  main : Array String := #[]
  /-- The bodies being written, the innermost first. -/
  bodies : List (Array String) := []
  /-- The finished functions, in the order in which they ended. -/
  functions : Array String := #[]
  /-- The names of all functions, in the order in which they began. -/
  names : Array String := #[]
  /-- The depth of the next line. -/
  indent : Nat := 1
  deriving DecidableEq

namespace Output

/-- Writes a finished line, indented and ended. -/
def line (o : Output) (text : String) : Output :=
  match o.bodies with
  | [] => { o with main := o.main.push text }
  | body :: rest => { o with bodies := body.push text :: rest }

/-- Writes one line of C at the present depth. -/
def emit (o : Output) (code : String) : Output :=
  o.line (BodyLine.margin o.indent ++ code ++ "\n")

/-- The number of places a line could go to. -/
def targets (o : Output) : Nat :=
  o.bodies.length + 1

/-- Begins a function body under its header. -/
def openFunction (o : Output) (header : String) : Output :=
  { o with bodies := #[header ++ " \x7b\n"] :: o.bodies, indent := 0 }

/-- Ends the innermost function body and goes back to a depth. -/
def closeFunction (o : Output) (indent : Nat) : Output :=
  match o.bodies with
  | [] => { o with indent := indent }
  | body :: rest =>
    { o with
      bodies := rest
      functions := o.functions.push (Text.concat (body.push "\x7d\n\n").toList)
      indent := indent }

end Output

/-- The state of a generator. -/
structure State extends Reading where
  types : TypeTable := {}
  output : Output := {}
  deriving DecidableEq

def State.ofTokens (tokens : List Token) (report : Report) (debug : Bool) : State where
  cursor := .ofTokens tokens
  report := report
  debug := debug
  trace := #[]

/-- A step of the generator. -/
abbrev Gen := EStateM Failure State

namespace Gen

/-- A reading step as a step of the generator. -/
def lift {α : Type} (m : Read α) : Gen α := fun s =>
  match m s.toReading with
  | .ok a r => .ok a { s with toReading := r }
  | .error e r => .error e { s with toReading := r }

instance : MonadLift Read Gen := ⟨lift⟩

def write (f : Output → Output) : Gen Unit :=
  modify fun s => { s with output := f s.output }

def emit (code : String) : Gen Unit :=
  write (·.emit code)

def declare (name : String) (kind : ValueKind) : Gen Unit :=
  modify fun s => { s with types := s.types.declare name kind }

end Gen

end StageZero
