import StageZero.Text
import StageZero.Token.Basic

/-!
# Diagnostics

A diagnostic names a fault, the place of the offending token, and the source
line that holds it. It is printed as one line, and as a picture: the source
line behind a gutter, with a caret under the offending column.
-/

namespace StageZero

/-- An error or a warning about a source text. -/
structure Diagnostic where
  code : String
  message : String
  pos : Position
  tokenValue : String := ""
  context : String := ""
  deriving DecidableEq

namespace Diagnostic

def format (d : Diagnostic) : String :=
  let value := if d.tokenValue = "" then "" else " '" ++ d.tokenValue ++ "'"
  "[" ++ d.code ++ "] " ++ d.pos.text ++ ": " ++ d.message ++ value

/-- What stands before the source line in the picture. -/
def gutter (d : Diagnostic) : String :=
  "   " ++ toString d.pos.line ++ " | "

/-- The source line with a caret under the offending column; nothing when the
source line is not known. -/
def pointer (d : Diagnostic) : String :=
  if d.context = "" then ""
  else
    let width := ((d.gutter.length : Int) + d.pos.column - 1).toNat
    d.gutter ++ d.context ++ "\n" ++ Text.repeated width ' ' ++ "^"

/-- The picture as a line of its own, if there is one. -/
def pointerLine (d : Diagnostic) : String :=
  if d.context = "" then "" else d.pointer ++ "\n"

/-- What the user is told when the diagnostic stops the compiler. -/
def errorText (d : Diagnostic) : String :=
  "Error: " ++ d.format ++ "\n" ++ d.pointerLine

/-- What the user is told when the compiler goes on. -/
def warningText (d : Diagnostic) : String :=
  "Warning: " ++ d.format ++ "\n"

end Diagnostic

end StageZero
