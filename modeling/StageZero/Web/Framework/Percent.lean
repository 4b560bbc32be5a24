import StageZero.Text.Hexadecimal
import StageZero.Text.Quoted
import StageZero.Text.Utf8

/-!
# Percent escapes

In an address a byte can be written as a percent sign and two hexadecimal digits.
A character that has no place where it would stand is written by the bytes of
its UTF-8 form.
-/

namespace StageZero.Web.Percent

/-- The byte that two digits stand for. -/
def byte? (high low : Char) : Option Nat := do
  return (← Text.hexValue? high) * 16 + (← Text.hexValue? low)

def escape (byte : Nat) : List Char :=
  '%' :: (Text.hex 2 byte).map Char.toUpper

/-- A path with its escapes resolved. Escaped bytes beyond ASCII are in no path
that is told apart from others, so they all become one character. -/
def resolvePath : List Char → List Char
  | '%' :: a :: b :: rest =>
    match byte? a b with
    | some byte => (if byte < 0x80 then Char.ofNat byte else '\uFFFD') :: resolvePath rest
    | none => '%' :: resolvePath (a :: b :: rest)
  | c :: rest => c :: resolvePath rest
  | [] => []

/-- Whether a character of ASCII may stand in the name of a user. A percent sign
may, since it begins an escape. -/
def inUser (c : Char) : Bool :=
  c.isAlphanum || ("_.-~%!$&'()*+,;=".toList.contains c)

/-- The name of a user with escapes for what may not stand in it. -/
def escapeUser (name : List Char) : List Char :=
  name.flatMap fun c =>
    if inUser c then [c]
    else (String.utf8EncodeChar c).flatMap fun byte => escape byte.toNat

/-- Whether a byte stays escaped in the name of a user: it is a blank or a control,
or it would divide the address. -/
def staysEscaped (byte : Nat) : Bool :=
  byte ≤ 0x20 || byte = 0x7F || "%:@/?#".toList.contains (Char.ofNat byte)

/-- The bytes of a name in ASCII, its escapes resolved but for those that stay. -/
def userBytes : List Char → List UInt8
  | '%' :: a :: b :: rest =>
    match byte? a b with
    | some byte =>
      if staysEscaped byte then
        ['%', a, b].map (fun c => UInt8.ofNat c.toNat) ++ userBytes rest
      else UInt8.ofNat byte :: userBytes rest
    | none => UInt8.ofNat '%'.toNat :: userBytes (a :: b :: rest)
  | c :: rest => UInt8.ofNat c.toNat :: userBytes rest
  | [] => []

/-- The character that bytes begin with, and the number of its bytes. -/
def character? (bytes : List UInt8) : Option (Char × Nat) :=
  [1, 2, 3, 4].findSome? fun n =>
    match Utf8.decodeFrom 0 none (bytes.take n) with
    | .ok [c] => some (c, n)
    | _ => none

/-- Bytes as text, without the first ones. A byte of no character is escaped. -/
def readable : Nat → List UInt8 → List Char
  | _, [] => []
  | skipped + 1, _ :: rest => readable skipped rest
  | 0, byte :: rest =>
    match character? (byte :: rest) with
    | some (c, n) => c :: readable (n - 1) rest
    | none => escape byte.toNat ++ readable 0 rest

/-- The name of a user as it is shown. -/
def resolveUser (name : List Char) : List Char :=
  readable 0 (userBytes name)

end StageZero.Web.Percent
