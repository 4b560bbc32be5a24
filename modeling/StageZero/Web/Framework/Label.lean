import StageZero.Web.Framework.Direction
import StageZero.Web.Framework.Fold
import StageZero.Web.Framework.Punycode

/-!
# Labels

Dots cut the name of a host into labels. A label beyond ASCII has a plain form:
it is folded, checked, and written in ASCII behind a mark that tells it from
labels that are plain from the start. A label with the mark can be shown again
as what it stands for, if it is the plain form of that.

A folded label holds no character that has no place in a name. If one of its
characters is written from the right, then none is written from the left, and it
begins and ends with such a character.
-/

namespace StageZero.Web.Label

open Text (inRanges isFromLeft isFromRight)

/-- What is wrong with a label. -/
inductive Fault where
  /-- The label is empty or too long. -/
  | length
  /-- The last label of a plain name is too long. It may be empty. -/
  | lastLength
  | forbidden (code : Nat)
  /-- Characters are written from the right and from the left. -/
  | mixedDirections
  /-- Characters are written from the right, but not at both ends. -/
  | openEnd
  /-- A label beyond ASCII begins with the mark. -/
  | marked
  /-- No text stands behind the mark. -/
  | unreadable (fault : Text.Punycode.Fault)
  /-- The label is not the plain form of what it stands for. -/
  | otherForm (label plain : List Char)
  deriving DecidableEq

/-- A code point in quotes. Of what is no character only the code is shown. -/
def quotedCode (code : Nat) : String :=
  if code.isValidChar then Text.quoted (String.singleton (Char.ofNat code))
  else "'\\u" ++ String.ofList (Text.hex 4 code) ++ "'"

/-- A report that a step in a code failed. -/
def failed (step code cause : String) : String :=
  step ++ " with '" ++ code ++ "' codec failed (UnicodeError: " ++ cause ++ ")"

/-- The wording of a fault in a step, which is writing names in their plain form
or showing what they stand for. -/
def Fault.message (step : String) : Fault → String
  | .length => failed step "idna" "label empty or too long"
  | .lastLength => failed step "idna" "label too long"
  | .forbidden code => failed step "idna" ("Invalid character " ++ quotedCode code)
  | .mixedDirections => failed step "idna" "Violation of BIDI requirement 2"
  | .openEnd => failed step "idna" "Violation of BIDI requirement 3"
  | .marked => failed step "idna" "Label starts with ACE prefix"
  | .unreadable fault => failed step "idna" (failed step "punycode" fault.message)
  | .otherForm label plain =>
    "('IDNA does not round-trip', b" ++ Text.quoted (String.ofList label) ++ ", b" ++
      Text.quoted (String.ofList plain) ++ ")"

def limit : Nat := 63

def mark : List Char := ['x', 'n', '-', '-']

/-- The characters that have no place in a name: controls, private characters,
blanks other than the plain one, and what only steers the display. -/
def forbiddenRanges : List (Nat × Nat) :=
  [(0x80, 0xA0), (0x340, 0x341), (0x6DD, 0x6DD), (0x70F, 0x70F), (0x1680, 0x1680),
    (0x180E, 0x180E), (0x2000, 0x200F), (0x2028, 0x202F), (0x205F, 0x2063), (0x206A, 0x206F),
    (0x2FF0, 0x2FFB), (0x3000, 0x3000), (0xD800, 0xF8FF), (0xFDD0, 0xFDEF), (0xFEFF, 0xFEFF),
    (0xFFF9, 0xFFFF), (0x1D173, 0x1D17A), (0xE0001, 0xE0001), (0xE0020, 0xE007F),
    (0xF0000, 0x10FFFF)]

/-- Whether a character has no place in a name. The last two of each plane have
none. -/
def isForbidden (code : Nat) : Bool :=
  inRanges forbiddenRanges code || 0xFFFE ≤ code % 0x10000

def prepare (label : List Nat) : Except Fault (List Nat) :=
  let folded := Text.Fold.fold label
  match folded.find? isForbidden with
  | some code => .error (.forbidden code)
  | none =>
    if !folded.any isFromRight then .ok folded
    else if folded.any isFromLeft then .error .mixedDirections
    else if (folded.head?.any isFromRight) && (folded.getLast?.any isFromRight) then .ok folded
    else .error .openEnd

/-- Whether all of a label is in ASCII. -/
def isPlain (label : List Nat) : Bool :=
  label.all (· < 0x80)

/-- A plain label, if it has a length that labels may have. -/
def sized (label : List Char) : Except Fault (List Char) :=
  if label.isEmpty || limit < label.length then .error .length else .ok label

def plain (label : List Nat) : Except Fault (List Char) := do
  if isPlain label then sized (label.map Char.ofNat)
  else
    let folded ← prepare label
    if isPlain folded then sized (folded.map Char.ofNat)
    else if (mark.map Char.toNat).isPrefixOf folded then throw .marked
    else sized (mark ++ Text.Punycode.encode folded)

/-- What a label in ASCII stands for. -/
def shown (label : List Char) : Except Fault (List Nat) := do
  if !mark.isPrefixOf label then return label.map Char.toNat
  match Text.Punycode.decode (label.drop mark.length) with
  | .error fault => throw (.unreadable fault)
  | .ok text =>
    let form ← plain text
    if label.map Char.toLower = form then return text else throw (.otherForm label form)

/-- Whether a character cuts labels. Beside the full stop there are those of
other scripts. -/
def isDot (c : Char) : Bool :=
  c == '.' || c == '\u3002' || c == '\uFF0E' || c == '\uFF61'

def join (labels : List (List Char)) : List Char :=
  ['.'].intercalate labels

/-- Refuses a name in ASCII by the lengths of its labels. The last may be empty. -/
def checkLengths (name : List Char) : Except Fault Unit :=
  match (Text.cut '.' name).reverse with
  | [] => .ok ()
  | last :: before =>
    if before.any fun label => label.isEmpty || limit < label.length then .error .length
    else if limit < last.length then .error .lastLength
    else .ok ()

/-- A step applied to each label, of which the last may be empty. -/
def eachLabel (step : List Char → Except Fault (List Char)) (labels : List (List Char)) :
    Except Fault (List Char) := do
  if labels.getLast? = some [] then
    return join ((← labels.dropLast.mapM step) ++ [[]])
  else return join (← labels.mapM step)

def plainName (name : List Char) : Except Fault (List Char) := do
  if isPlain (name.map Char.toNat) then
    checkLengths name
    return name
  else
    let dotted := name.map fun c => if isDot c then '.' else c
    eachLabel (fun label => plain (label.map Char.toNat)) (Text.cut '.' dotted)

/-- What a name in ASCII stands for. -/
def shownName (name : List Char) : Except Fault (List Char) :=
  eachLabel (fun label => (·.map Char.ofNat) <$> shown label) (Text.cut '.' name)

end StageZero.Web.Label
