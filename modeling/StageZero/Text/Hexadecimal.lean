import StageZero.Text

/-!
# Hexadecimal numbers

Numbers to the base sixteen, and tables of them: tables of characters are kept
as lines of text, in which commas divide the rows and spaces the numbers.
-/

namespace StageZero.Text

def hexValue? (c : Char) : Option Nat :=
  if c.isDigit then some (c.toNat - '0'.toNat)
  else if 'a' ≤ c ∧ c ≤ 'f' then some (c.toNat - 'a'.toNat + 10)
  else if 'A' ≤ c ∧ c ≤ 'F' then some (c.toNat - 'A'.toNat + 10)
  else none

/-- The number that hexadecimal digits stand for. -/
def hexNumber (digits : List Char) : Nat :=
  digits.foldl (fun n c => n * 16 + (hexValue? c).getD 0) 0

/-- The rows of a line of a table. -/
def rows (line : String) : List (List Nat) :=
  (cut ',' line.toList).map fun row => (cut ' ' row).map hexNumber

end StageZero.Text
