/-!
# Text in wide units

Text in units of two or four bytes, in either byte order. With two bytes a
character beyond the first 65536 takes two units, its halves. Half a character
alone stands for nothing, and is read as the replacement character.
-/

namespace StageZero.Text

/-- Whether a unit is the first half of a character. -/
def isHigh (unit : Nat) : Bool :=
  0xD800 ≤ unit && unit < 0xDC00

/-- Whether a unit is the second half of a character. -/
def isLow (unit : Nat) : Bool :=
  0xDC00 ≤ unit && unit < 0xE000

def unitChar (unit : Nat) : Char :=
  if isHigh unit || isLow unit then '\uFFFD' else Char.ofNat unit

def pairChar (high low : Nat) : Char :=
  Char.ofNat (0x10000 + (high - 0xD800) * 0x400 + (low - 0xDC00))

/-- The order in which the bytes of a unit stand. -/
inductive ByteOrder where
  | big
  | little
  deriving DecidableEq

/-- The number that bytes make, the first counting most. -/
def ofBytes (bytes : List UInt8) : Nat :=
  bytes.foldl (fun n b => n * 256 + b.toNat) 0

def ByteOrder.unit : ByteOrder → List UInt8 → Nat
  | .big, bytes => ofBytes bytes
  | .little, bytes => ofBytes bytes.reverse

/-- Units of two bytes; none if a byte is left over. -/
def units16? (order : ByteOrder) : List UInt8 → Option (List Nat)
  | a :: b :: rest => (order.unit [a, b] :: ·) <$> units16? order rest
  | [] => some []
  | _ => none

/-- Units of four bytes; none if bytes are left over. -/
def units32? (order : ByteOrder) : List UInt8 → Option (List Nat)
  | a :: b :: c :: d :: rest => (order.unit [a, b, c, d] :: ·) <$> units32? order rest
  | [] => some []
  | _ => none

/-- The text of units of two bytes. -/
def ofUnits16 : List Nat → List Char
  | high :: low :: rest =>
    if isHigh high && isLow low then pairChar high low :: ofUnits16 rest
    else unitChar high :: ofUnits16 (low :: rest)
  | [unit] => [unitChar unit]
  | [] => []

/-- The text of units of four bytes; none if one is beyond Unicode. -/
def ofUnits32? : List Nat → Option (List Char)
  | [] => some []
  | unit :: rest => if unit < 0x110000 then (unitChar unit :: ·) <$> ofUnits32? rest else none

end StageZero.Text
