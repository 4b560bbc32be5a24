import StageZero.Support.Library
import StageZero.Token.Kind

/-!
# Fragments

A fragment is a piece of C with the kind of its value. An expression is read as
a list of fragments, its parts, and becomes one fragment in one of two ways:
the parts are joined by spaces, or, when texts are added, the operands between
the plus signs are folded from the left into calls that concatenate.
-/

namespace StageZero

/-- A piece of C and the kind of its value. -/
structure Fragment where
  code : String
  kind : ValueKind
  deriving DecidableEq

def escapeQuotes (text : List Char) : List Char :=
  text.flatMap fun c => if c = '"' then ['\\', '"'] else [c]

/-- The C string literal of a text. Only quotes are escaped: the scanner left
every other escape as it was written. -/
def cString (value : String) : String :=
  "\"" ++ String.ofList (escapeQuotes value.toList) ++ "\""

namespace Fragment

def literal (value : String) : Fragment :=
  ⟨cString value, .text⟩

/-- The fragment of an operator. It has no value of its own. -/
def sign (o : Operator) : Fragment :=
  ⟨o.text, .unknown⟩

/-- The fragment of a call that gives a value. -/
def call (r : Routine) (args : List String) : Fragment :=
  ⟨r.call args, r.kind⟩

/-- Whether a fragment is the plus sign. -/
def isPlus (f : Fragment) : Bool :=
  f.kind == .unknown && f.code == "+"

def isText (f : Fragment) : Bool :=
  f.kind == .text

/-- Parts written side by side. One text among them makes the whole a text. -/
def join (parts : List Fragment) : Fragment :=
  ⟨Text.joinWith " " (parts.map (·.code)), if parts.any isText then .text else .integer⟩

/-- The stretches of parts between plus signs, empty ones included. -/
def splitAtPlus : List Fragment → List (List Fragment)
  | [] => [[]]
  | part :: rest =>
    if part.isPlus then [] :: splitAtPlus rest
    else
      match splitAtPlus rest with
      | [] => [[part]]
      | run :: runs => (part :: run) :: runs

/-- The operands of a chain of additions: each stretch between plus signs,
joined. Signs with nothing between them add nothing. -/
def operands (parts : List Fragment) : List Fragment :=
  ((splitAtPlus parts).filter fun run => !run.isEmpty).map join

/-- The routine that concatenates values of two kinds, if they are not to be
added as numbers. -/
def concatRoutine? : ValueKind → ValueKind → Option Routine
  | .text, .text => some Support.concat
  | .text, .integer => some Support.concatStrInt
  | .integer, .text => some Support.concatIntStr
  | _, _ => none

def add (a b : Fragment) : Fragment :=
  match concatRoutine? a.kind b.kind with
  | some routine => ⟨routine.call [a.code, b.code], .text⟩
  | none => ⟨"(" ++ a.code ++ " + " ++ b.code ++ ")", .integer⟩

/-- A chain of additions with a text in it, folded from the left. -/
def concatenate (parts : List Fragment) : Fragment :=
  match operands parts with
  | [] => ⟨"\"\"", .text⟩
  | [operand] => operand
  | operand :: rest => ⟨(rest.foldl add operand).code, .text⟩

/-- The fragment of a whole expression. Parts are concatenated when there is a
text among them, a plus sign, and room for both operands. -/
def ofParts (parts : List Fragment) : Fragment :=
  if parts.any isText && parts.any isPlus && 3 ≤ parts.length then concatenate parts
  else join parts

end Fragment

end StageZero
