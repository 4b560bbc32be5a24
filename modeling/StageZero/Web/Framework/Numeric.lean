import StageZero.Text.Decimal
import StageZero.Text.Hexadecimal
import StageZero.Text.Quoted

/-!
# Numeric hosts

A host can be given by its number. A short number has four octets with dots
between them. A long one has eight groups of hexadecimal digits with colons
between them; one run of zero groups may be left out between two colons, the
last two groups may be written as a short number, and a zone may follow a
percent sign. What stands in brackets is a long number, or begins with the
version of a form still to come.
-/

namespace StageZero.Web.Numeric

/-- What is wrong with a host in brackets. -/
inductive Fault where
  /-- It begins like a form to come and is none. -/
  | version
  /-- It is a short number. -/
  | short
  | notNumber (host : List Char)
  deriving DecidableEq

def Fault.message : Fault → String
  | .version => "IPvFuture address is invalid"
  | .short => "An IPv4 address cannot be in brackets"
  | .notNumber host =>
    Text.quoted (String.ofList host) ++ " does not appear to be an IPv4 or IPv6 address"

/-- Whether a text is a number below 256 without needless zeros. -/
def isOctet (text : List Char) : Bool :=
  !text.isEmpty && text.length ≤ 3 && text.all Char.isDigit &&
    (text.length = 1 || text.head? ≠ some '0') && Text.ofDigits text < 256

/-- Whether a host is a short number. -/
def isShort (host : List Char) : Bool :=
  let octets := Text.cut '.' host
  octets.length = 4 && octets.all isOctet

/-- Whether a text is a group of a long number. -/
def isGroup (text : List Char) : Bool :=
  !text.isEmpty && text.length ≤ 4 && text.all fun c => (Text.hexValue? c).isSome

/-- The groups of a long number, empty ones included. A short number at the end
stands for two groups. -/
def groups? (host : List Char) : Option (List (List Char)) :=
  let groups := Text.cut ':' host
  if groups.length < 3 then none
  else
    match groups.getLast? with
    | some last =>
      if !last.contains '.' then some groups
      else if isShort last then some (groups.dropLast ++ [['0'], ['0']])
      else none
    | none => none

/-- The number of groups on one side of a gap; none if they are no groups. The gap
can reach to the end. -/
def sideLength? (side : List (List Char)) : Option Nat :=
  if side = [[]] then some 0
  else if side.all isGroup then some side.length
  else none

/-- Whether groups make a long number. An empty group that is neither the first
nor the last is a gap, and stands for at least one group. -/
def areLong (groups : List (List Char)) : Bool :=
  let head := groups.take 1
  let rest := groups.drop 1
  if rest.dropLast.contains [] then
    match sideLength? (head ++ rest.takeWhile (· ≠ [])),
        sideLength? ((rest.dropWhile (· ≠ [])).drop 1) with
    | some before, some behind => before + behind < 8
    | _, _ => false
  else groups.length = 8 && groups.all isGroup

/-- Whether a zone may follow a long number. -/
def isZone : List Char → Bool
  | [] => true
  | _ :: zone => !zone.isEmpty && !zone.contains '%'

/-- Whether a host is a long number. -/
def isLong (host : List Char) : Bool :=
  ((groups? (host.takeWhile (· ≠ '%'))).map areLong).getD false &&
    isZone (host.dropWhile (· ≠ '%'))

/-- Whether a host has the form of one to come: a version in hexadecimal digits, a
dot and more. The version follows a letter. -/
def isVersioned (text : List Char) : Bool :=
  let isHex := fun c => (Text.hexValue? c).isSome
  match text.takeWhile isHex, text.dropWhile isHex with
  | _ :: _, '.' :: _ :: _ => true
  | _, _ => false

/-- Refuses what may not stand in brackets. -/
def check (host : List Char) : Except Fault Unit :=
  match host with
  | 'v' :: rest => if isVersioned rest then .ok () else .error .version
  | _ =>
    if isShort host then .error .short
    else if isLong host then .ok ()
    else .error (.notNumber host)

end StageZero.Web.Numeric
