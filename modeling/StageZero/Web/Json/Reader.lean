import StageZero.Text.Decimal
import StageZero.Text.Hexadecimal
import StageZero.Text.Utf8
import StageZero.Text.Wide
import StageZero.Web.Json

/-!
# Reading JSON

A value is read from the front of a text, and the rest is handed on. The text
of a whole document is one value with blanks around it. Beyond the standard,
the names of infinity and of the undefined number are read as values; a
character below the space has to be escaped inside a string; and an integer of
more digits than `Text.digitLimit` is refused. A document that opens more than
`depthLimit` arrays and objects inside each other is given up at the bracket
too many, whatever follows.

The readers carry a count of steps, which the length of the text covers: each
step reads at least one character. How many brackets may still be opened is a
count of its own.
-/

namespace StageZero.Web.Json

/-- Blanks between the parts of a value. -/
def isBlank (c : Char) : Bool :=
  c == ' ' || c == '\t' || c == '\n' || c == '\r'

/-- A text without the blanks before it. -/
def skipBlanks (text : List Char) : List Char :=
  text.dropWhile isBlank

/-- The rest of a text behind a word it begins with. -/
def behind? (word : String) (text : List Char) : Option (List Char) :=
  if text.take word.length = word.toList then some (text.drop word.length) else none

def hexQuad? (a b c d : Char) : Option Nat := do
  let a ← Text.hexValue? a
  let b ← Text.hexValue? b
  let c ← Text.hexValue? c
  let d ← Text.hexValue? d
  return ((a * 16 + b) * 16 + c) * 16 + d

def escapeChar? : Char → Option Char
  | '"' => some '"'
  | '\\' => some '\\'
  | '/' => some '/'
  | 'b' => some '\x08'
  | 'f' => some '\x0c'
  | 'n' => some '\n'
  | 'r' => some '\r'
  | 't' => some '\t'
  | _ => none

/-- A string up to its closing quote. The characters read so far are kept
backwards, and so is the first half of a character that waits for its second. -/
def readString (high : Option Nat) (acc : List Char) : List Char → Option (String × List Char)
  | [] => none
  | '"' :: rest =>
    let acc := if high.isSome then '\uFFFD' :: acc else acc
    some (String.ofList acc.reverse, rest)
  | '\\' :: 'u' :: a :: b :: c :: d :: rest =>
    match hexQuad? a b c d with
    | none => none
    | some unit =>
      match high with
      | some h =>
        if Text.isLow unit then readString none (Text.pairChar h unit :: acc) rest
        else if Text.isHigh unit then readString (some unit) ('\uFFFD' :: acc) rest
        else readString none (Text.unitChar unit :: '\uFFFD' :: acc) rest
      | none =>
        if Text.isHigh unit then readString (some unit) acc rest
        else readString none (Text.unitChar unit :: acc) rest
  | '\\' :: e :: rest =>
    match escapeChar? e with
    | none => none
    | some c => readString none (c :: (if high.isSome then '\uFFFD' :: acc else acc)) rest
  | c :: rest =>
    if c.toNat < 0x20 ∨ c = '\\' then none
    else readString none (c :: (if high.isSome then '\uFFFD' :: acc else acc)) rest

/-- The whole part of a number: a zero, or digits that begin with none. -/
def wholePart : List Char → Option (List Char × List Char)
  | '0' :: rest => some (['0'], rest)
  | text =>
    match text.takeWhile Char.isDigit with
    | [] => none
    | digits => some (digits, text.dropWhile Char.isDigit)

/-- The places behind the point of a number, if there are any. -/
def fraction (text : List Char) : Option (List Char) × List Char :=
  match text with
  | '.' :: rest =>
    match rest.takeWhile Char.isDigit with
    | [] => (none, text)
    | digits => (some digits, rest.dropWhile Char.isDigit)
  | _ => (none, text)

/-- The exponent of a number, if there is one. -/
def exponent (text : List Char) : Option Int × List Char :=
  match text with
  | mark :: rest =>
    if mark = 'e' ∨ mark = 'E' then
      let (negative, digits) := match rest with
        | '-' :: digits => (true, digits)
        | '+' :: digits => (false, digits)
        | digits => (false, digits)
      match digits.takeWhile Char.isDigit with
      | [] => (none, text)
      | places =>
        let n : Int := Text.ofDigits places
        (some (if negative then -n else n), digits.dropWhile Char.isDigit)
    else (none, text)
  | [] => (none, text)

def readNumber (text : List Char) : Option (Json × List Char) := do
  let (negative, unsigned) := match text with
    | '-' :: rest => (true, rest)
    | _ => (false, text)
  let (whole, rest) ← wholePart unsigned
  match fraction rest with
  | (none, rest) =>
    match exponent rest with
    | (none, rest) =>
      if whole.length ≤ Text.digitLimit then
        let n : Int := Text.ofDigits whole
        return (.integer (if negative then -n else n), rest)
      else none
    | (some e, rest) => return (.real negative (Text.ofDigits whole) e, rest)
  | (some places, rest) =>
    let digits := Text.ofDigits (whole ++ places)
    match exponent rest with
    | (none, rest) => return (.real negative digits (-places.length), rest)
    | (some e, rest) => return (.real negative digits (e - places.length), rest)

/-- A value that is no array, object or string. -/
def readPlain (text : List Char) : Option (Json × List Char) :=
  let words : List (String × Json) :=
    [("null", .null), ("true", .bool true), ("false", .bool false), ("NaN", .special "NaN"),
      ("Infinity", .special "Infinity"), ("-Infinity", .special "-Infinity")]
  match words.findSome? fun row => (behind? row.1 text).map fun rest => (row.2, rest) with
  | some answer => some answer
  | none => readNumber text

/-- Why a document gives no value. -/
inductive Fault where
  | malformed
  /-- Arrays and objects are nested too deeply. -/
  | tooDeep
  deriving DecidableEq

/-- What a reader makes of a text. -/
abbrev Reading := Except Fault

def found {α : Type} : Option α → Reading α
  | some answer => .ok answer
  | none => .error .malformed

/-- How deep arrays and objects may be nested. -/
def depthLimit : Nat := 975

mutual

/-- A value, with room for so many brackets. -/
def readValue : Nat → Nat → List Char → Reading (Json × List Char)
  | 0, _, _ => .error .malformed
  | n + 1, room, text =>
    match text with
    | '"' :: rest => found ((readString none [] rest).map fun (s, rest) => (.string s, rest))
    | '[' :: rest =>
      match room with
      | 0 => .error .tooDeep
      | room + 1 =>
        match skipBlanks rest with
        | ']' :: rest => .ok (.array [], rest)
        | rest => do
          let (items, rest) ← readItems n room rest
          return (.array items, rest)
    | '\x7b' :: rest =>
      match room with
      | 0 => .error .tooDeep
      | room + 1 =>
        match skipBlanks rest with
        | '\x7d' :: rest => .ok (.object [], rest)
        | rest => do
          let (fields, rest) ← readFields n room rest
          return (.object fields, rest)
    | text => found (readPlain text)

/-- The items of an array up to its end; there is at least one. -/
def readItems : Nat → Nat → List Char → Reading (List Json × List Char)
  | 0, _, _ => .error .malformed
  | n + 1, room, text => do
    let (item, rest) ← readValue n room text
    match skipBlanks rest with
    | ']' :: rest => return ([item], rest)
    | ',' :: rest =>
      let (items, rest) ← readItems n room (skipBlanks rest)
      return (item :: items, rest)
    | _ => .error .malformed

/-- The fields of an object up to its end; there is at least one. -/
def readFields : Nat → Nat → List Char → Reading (List (String × Json) × List Char)
  | 0, _, _ => .error .malformed
  | n + 1, room, text =>
    match text with
    | '"' :: rest => do
      let (name, rest) ← found (readString none [] rest)
      match skipBlanks rest with
      | ':' :: rest =>
        let (value, rest) ← readValue n room (skipBlanks rest)
        match skipBlanks rest with
        | '\x7d' :: rest => return ([(name, value)], rest)
        | ',' :: rest =>
          let (fields, rest) ← readFields n room (skipBlanks rest)
          return ((name, value) :: fields, rest)
        | _ => .error .malformed
      | _ => .error .malformed
    | _ => .error .malformed

end

/-- The value of the text of a document. -/
def readText (text : List Char) : Reading Json := do
  let (value, rest) ← readValue (text.length + 1) depthLimit (skipBlanks text)
  if (skipBlanks rest).isEmpty then return value else throw .malformed

/-- How the text of a document is written as bytes. -/
inductive Encoding where
  | utf8
  | utf16 (order : Text.ByteOrder)
  | utf32 (order : Text.ByteOrder)
  deriving DecidableEq

namespace Encoding

/-- The encoding of a document. A document begins with plain characters, so the
zeros among its first bytes tell the width of its units and the order of their
bytes. -/
def detect : List UInt8 → Encoding
  | [a, b] => if a = 0 then .utf16 .big else if b = 0 then .utf16 .little else .utf8
  | a :: b :: c :: d :: _ =>
    if a = 0 then if b = 0 then .utf32 .big else .utf16 .big
    else if b = 0 then if c = 0 ∧ d = 0 then .utf32 .little else .utf16 .little
    else .utf8
  | _ => .utf8

/-- The text that bytes stand for in an encoding. -/
def decode? : Encoding → List UInt8 → Option (List Char)
  | .utf8, bytes => (Utf8.decodeFrom 0 none bytes).toOption
  | .utf16 order, bytes => (Text.units16? order bytes).map Text.ofUnits16
  | .utf32 order, bytes => (Text.units32? order bytes).bind Text.ofUnits32?

end Encoding

/-- The text of a document. A byte order mark before it is dropped. -/
def textOf? (bytes : List UInt8) : Option (List Char) :=
  match (Encoding.detect bytes).decode? bytes with
  | some ('\uFEFF' :: text) => some text
  | text => text

def read (document : ByteArray) : Reading Json :=
  match textOf? document.toList with
  | some text => readText text
  | none => .error .malformed

end StageZero.Web.Json
