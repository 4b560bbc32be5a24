/-!
# UTF-8, decoded strictly

Bytes become characters one sequence at a time. The lead byte of a sequence
fixes which bytes may follow, and the second byte has a narrower range after
the lead bytes that would otherwise reach an overlong form, a surrogate or a
number beyond Unicode. The first byte that fits nowhere is a fault, and a fault
says where its sequence began, how many bytes of it had been accepted, and why
it stopped.
-/

namespace StageZero.Utf8

/-- Why bytes are no text. -/
inductive Reason where
  | invalidStart
  | invalidContinuation
  | unexpectedEnd
  deriving DecidableEq

def Reason.message : Reason → String
  | .invalidStart => "invalid start byte"
  | .invalidContinuation => "invalid continuation byte"
  | .unexpectedEnd => "unexpected end of data"

/-- Where and why bytes are no text. -/
structure Fault where
  /-- The lead byte of the sequence at fault. -/
  lead : Nat
  /-- The place of the lead byte. -/
  start : Nat
  /-- The number of bytes that were accepted, the lead byte included. -/
  extent : Nat
  reason : Reason
  deriving DecidableEq

def hexByte (n : Nat) : String :=
  String.ofList [Nat.digitChar (n / 16), Nat.digitChar (n % 16)]

def Fault.message (f : Fault) : String :=
  let place :=
    if f.extent = 1 then "byte 0x" ++ hexByte f.lead ++ " in position " ++ toString f.start
    else
      "bytes in position " ++ toString f.start ++ "-" ++ toString (f.start + f.extent - 1)
  "'utf-8' codec can't decode " ++ place ++ ": " ++ f.reason.message

/-- The bytes that may continue a sequence. -/
def tail : Nat × Nat := (0x80, 0xBF)

/-- The ranges of the bytes that follow a lead byte; none if it leads nothing. -/
def following (b : Nat) : Option (List (Nat × Nat)) :=
  if b < 0x80 then some []
  else if b < 0xC2 then none
  else if b < 0xE0 then some [tail]
  else if b = 0xE0 then some [(0xA0, 0xBF), tail]
  else if b = 0xED then some [(0x80, 0x9F), tail]
  else if b < 0xF0 then some [tail, tail]
  else if b = 0xF0 then some [(0x90, 0xBF), tail, tail]
  else if b < 0xF4 then some [tail, tail, tail]
  else if b = 0xF4 then some [(0x80, 0x8F), tail, tail]
  else none

/-- The bits that a lead byte contributes, by the number of bytes after it. -/
def leadBits (b : Nat) : Nat → Nat
  | 0 => b
  | 1 => b % 0x20
  | 2 => b % 0x10
  | _ => b % 0x08

/-- A sequence being read. -/
structure Partial where
  lead : Nat
  start : Nat
  /-- Bytes accepted so far. -/
  seen : Nat
  /-- The bits collected so far. -/
  bits : Nat
  /-- The range of the next byte. -/
  next : Nat × Nat
  /-- The ranges of the bytes after it. -/
  later : List (Nat × Nat)
  deriving DecidableEq

/-- The fault of a sequence that stops where it is. -/
def Partial.fault (p : Partial) (reason : Reason) : Fault :=
  ⟨p.lead, p.start, p.seen, reason⟩

/-- Decodes bytes from a place on, in the middle of a sequence or between two. -/
def decodeFrom (place : Nat) : Option Partial → List UInt8 → Except Fault (List Char)
  | none, [] => .ok []
  | some p, [] => .error (p.fault .unexpectedEnd)
  | none, byte :: rest =>
    let b := byte.toNat
    match following b with
    | none => .error ⟨b, place, 1, .invalidStart⟩
    | some [] => (Char.ofNat b :: ·) <$> decodeFrom (place + 1) none rest
    | some (next :: later) =>
      let bits := leadBits b (later.length + 1)
      decodeFrom (place + 1) (some ⟨b, place, 1, bits, next, later⟩) rest
  | some p, byte :: rest =>
    let b := byte.toNat
    if p.next.1 ≤ b ∧ b ≤ p.next.2 then
      let bits := p.bits * 64 + b % 64
      match p.later with
      | [] => (Char.ofNat bits :: ·) <$> decodeFrom (place + 1) none rest
      | next :: later =>
        decodeFrom (place + 1)
          (some { p with seen := p.seen + 1, bits := bits, next := next, later := later }) rest
    else .error (p.fault .invalidContinuation)

def decode (bytes : ByteArray) : Except Fault (List Char) :=
  decodeFrom 0 none bytes.toList

/-- A text with every line break in one form: a carriage return, alone or with
a line feed behind it, becomes a line feed. -/
def normalizeNewlines : List Char → List Char
  | '\r' :: '\n' :: rest => '\n' :: normalizeNewlines rest
  | '\r' :: rest => '\n' :: normalizeNewlines rest
  | c :: rest => c :: normalizeNewlines rest
  | [] => []

end StageZero.Utf8
