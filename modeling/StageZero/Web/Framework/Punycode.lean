import StageZero.Text.Quoted

/-!
# Punycode

A text is written in letters, digits and hyphens alone: its ASCII characters
come first, and behind a hyphen the others follow as numbers. Each number says
how far to go on from the place of the character put in before, counting through
all places of the text for each code point in turn. The digits of a number run
from the least to the greatest, and a digit below its threshold is the last. The
thresholds follow a bias, which adapts to the numbers seen so far.

Characters are given by their code points.
-/

namespace StageZero.Text.Punycode

/-- Why a text stands for nothing. -/
inductive Fault where
  /-- The last number has no end. -/
  | incomplete
  | badDigit (c : Char)
  | beyondUnicode (code : Nat)
  deriving DecidableEq

def Fault.message : Fault → String
  | .incomplete => "incomplete punicode string"
  | .badDigit c => "Invalid extended code point '" ++ String.singleton c ++ "'"
  | .beyondUnicode code => "Invalid character U+" ++ String.ofList (hex 1 code)

def base : Nat := 36

def firstBias : Nat := 72

/-- The first code point that is not in ASCII. -/
def firstCode : Nat := 0x80

/-- The threshold of a digit. The step is the base times the place of the digit,
counted from one. -/
def threshold (bias step : Nat) : Nat :=
  max 1 (min 26 (step - bias))

theorem threshold_pos (bias step : Nat) : 0 < threshold bias step := by
  unfold threshold
  omega

theorem threshold_le (bias step : Nat) : threshold bias step ≤ 26 := by
  unfold threshold
  omega

/-- The bias for a number in a row of such numbers. -/
def settle (bias delta : Nat) : Nat :=
  if 455 < delta then settle (bias + base) (delta / 35)
  else bias + base * delta / (delta + 38)
termination_by delta

/-- The bias behind a number, which put a character into a text of the given
length. -/
def adapt (first : Bool) (delta length : Nat) : Nat :=
  let delta := if first then delta / 700 else delta / 2
  settle 0 (delta + delta / length)

def digitChar (d : Nat) : Char :=
  if d < 26 then Char.ofNat ('a'.toNat + d) else Char.ofNat ('0'.toNat + (d - 26))

/-- The value of a digit. Case does not matter. -/
def digit? (c : Char) : Option Nat :=
  let c := c.toLower
  if c.isLower then some (c.toNat - 'a'.toNat)
  else if c.isDigit then some (c.toNat - '0'.toNat + 26)
  else none

/-- The digits of a number from a step on. -/
def digits (bias step n : Nat) : List Char :=
  let t := threshold bias step
  if n < t then [digitChar n]
  else digitChar (t + (n - t) % (base - t)) :: digits bias (step + base) ((n - t) / (base - t))
termination_by n
decreasing_by
  have positive := threshold_pos bias step
  have quotient := Nat.div_le_self (n - threshold bias step) (base - threshold bias step)
  omega

/-- The numbers for the places of one code point in a text, and how far it is
from the last of them to the end. What is smaller has been put in already and is
passed over one by one; what is larger is not there yet. -/
def gapsOf (code : Nat) : Nat → List Nat → List Nat × Nat
  | gap, [] => ([], gap)
  | gap, c :: rest =>
    if c < code then gapsOf code (gap + 1) rest
    else if c = code then
      let (gaps, last) := gapsOf code 0 rest
      (gap :: gaps, last)
    else gapsOf code gap rest

/-- The numbers for the given code points of a text, in increasing order. The
first argument is the code point up to which all has been counted, the second
how far. -/
def gaps (text : List Nat) : Nat → Nat → List Nat → List Nat
  | _, _, [] => []
  | counted, gap, code :: codes =>
    let smaller := text.countP (· < code)
    let (here, last) := gapsOf code (gap + (code - counted) * (smaller + 1)) text
    here ++ gaps text (code + 1) (last + 1) codes

/-- Numbers written one after the other, the first of which puts a character into
a text of the given length. -/
def write (first : Bool) (bias length : Nat) : List Nat → List Char
  | [] => []
  | n :: rest =>
    digits bias base n ++ write false (adapt first n (length + 1)) (length + 1) rest

/-- Puts a number into numbers in increasing order, unless it is there. -/
def insert (n : Nat) : List Nat → List Nat
  | [] => [n]
  | m :: rest =>
    if n < m then n :: m :: rest else if n = m then m :: rest else m :: insert n rest

def encode (text : List Nat) : List Char :=
  let plain := text.filter (· < firstCode)
  let others := (text.filter (firstCode ≤ ·)).foldr insert []
  (if plain.isEmpty then [] else plain.map Char.ofNat ++ ['-']) ++
    write true firstBias plain.length (gaps text firstCode 0 others)

/-- A number being read. -/
structure Number where
  value : Nat := 0
  weight : Nat := 1
  step : Nat := base
  deriving DecidableEq

/-- A text that characters are being put into. -/
structure Decoding where
  text : List Nat
  /-- The code point of the last character put in. -/
  code : Nat := firstCode
  /-- The place behind it. -/
  place : Nat := 0
  bias : Nat := firstBias
  /-- Whether none has been put in. -/
  first : Bool := true

/-- Puts the character of a number in. -/
def Decoding.insert (d : Decoding) (delta : Nat) : Except Fault Decoding :=
  let length := d.text.length + 1
  let count := d.place + delta
  let code := d.code + count / length
  let place := count % length
  if 0x10FFFF < code then .error (.beyondUnicode code)
  else
    .ok
      { text := d.text.take place ++ code :: d.text.drop place
        code := code
        place := place + 1
        bias := adapt d.first delta length
        first := false }

/-- Reads numbers, in the middle of one or between two, and puts their characters
in. -/
def decodeFrom (d : Decoding) (n : Number) : List Char → Except Fault (List Nat)
  | [] => if n = {} then .ok d.text else .error .incomplete
  | c :: rest =>
    match digit? c with
    | none => .error (.badDigit c.toUpper)
    | some k =>
      let t := threshold d.bias n.step
      let value := n.value + k * n.weight
      if k < t then
        match d.insert value with
        | .error fault => .error fault
        | .ok d => decodeFrom d {} rest
      else decodeFrom d ⟨value, n.weight * (base - t), n.step + base⟩ rest

/-- The text of a written form. The last hyphen ends the ASCII characters. -/
def decode (written : List Char) : Except Fault (List Nat) :=
  let numbers := (written.reverse.takeWhile (· ≠ '-')).reverse
  let plain := (written.reverse.dropWhile (· ≠ '-')).drop 1
  decodeFrom { text := plain.reverse.map Char.toNat } {} numbers

end StageZero.Text.Punycode
