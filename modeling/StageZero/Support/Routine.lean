import StageZero.Text
import StageZero.TypeTable

/-!
# Routines of the support library

Every compiled program starts with a small library of C functions. A routine is
kept as data: its name, the kinds of its parameters and of its result, and its
body line by line. Both the C text and the signature that the generator obeys
are read off the same record, so a call that fits the signature fits the text.
-/

namespace StageZero

/-- The two C types a routine can take or give. -/
inductive Slot where
  | text
  | integer
  deriving DecidableEq

namespace Slot

/-- One letter per type, as signatures are listed. -/
def letter : Slot → String
  | .text => "s"
  | .integer => "i"

/-- The kind of value that travels through the slot. -/
def kind : Slot → ValueKind
  | .text => .text
  | .integer => .integer

/-- The C type of a parameter. Texts are only read. -/
def parameterType : Slot → String
  | .text => "const char*"
  | .integer => "int"

/-- The C type of a result. Texts are owned by the caller. -/
def resultType : Slot → String
  | .text => "char*"
  | .integer => "int"

end Slot

/-- One line of a C function body. -/
inductive BodyLine where
  /-- A line as it stands. -/
  | plain (text : String)
  /-- A line that opens a block. -/
  | opens (head : String)
  /-- The end of one block and the start of its alternative. -/
  | otherwise
  /-- The end of a block. -/
  | closes
  deriving DecidableEq

namespace BodyLine

/-- Four spaces per level. -/
def margin (depth : Nat) : String :=
  Text.repeated (4 * depth) ' '

/-- The text of lines that start at a depth. -/
def render : Nat → List BodyLine → String
  | _, [] => ""
  | depth, .plain text :: rest => margin depth ++ text ++ "\n" ++ render depth rest
  | depth, .opens head :: rest => margin depth ++ head ++ " \x7b\n" ++ render (depth + 1) rest
  | depth, .otherwise :: rest => margin (depth - 1) ++ "\x7d else \x7b\n" ++ render depth rest
  | depth, .closes :: rest => margin (depth - 1) ++ "\x7d\n" ++ render (depth - 1) rest

end BodyLine

/-- A C function of the support library. -/
structure Routine where
  /-- What the function is for, as its comment says. -/
  purpose : String
  name : String
  params : List (Slot × String)
  result : Option Slot
  body : List BodyLine
  deriving DecidableEq

namespace Routine

/-- The number of arguments a call must pass. -/
def arity (r : Routine) : Nat :=
  r.params.length

def kind (r : Routine) : ValueKind :=
  match r.result with
  | some slot => slot.kind
  | none => .unknown

/-- The function's first line, up to the brace. -/
def header (r : Routine) : String :=
  let result := match r.result with
    | some slot => slot.resultType
    | none => "void"
  let params := r.params.map fun p => p.1.parameterType ++ " " ++ p.2
  result ++ " " ++ r.name ++ "(" ++ Text.joinWith ", " params ++ ")"

def definition (r : Routine) : String :=
  "/* " ++ r.purpose ++ " */\n" ++ r.header ++ " \x7b\n" ++ BodyLine.render 1 r.body ++ "\x7d\n\n"

def call (r : Routine) (args : List String) : String :=
  r.name ++ "(" ++ Text.joinWith ", " args ++ ")"

end Routine

end StageZero
