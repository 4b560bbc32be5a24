import StageZero.Text.Case
import StageZero.Web.Framework.Label
import StageZero.Web.Framework.Numeric
import StageZero.Web.Framework.Percent

/-!
# Authorities

The authority of an address names a host, and may name a socket on it and a user
with a password. What it names is never looked up, but it has to be well formed:
its brackets stand around a numeric host, its socket is a number that fits in
two bytes, and the labels of its host have plain forms. No character of it may
be another form of one that divides addresses.
-/

namespace StageZero.Web

/-- An authority in its parts. Those that are not there are empty. -/
structure Authority where
  user : List Char := []
  password : List Char := []
  host : List Char := []
  socket : List Char := []
  deriving DecidableEq

namespace Authority

/-- What is wrong with an authority. -/
inductive Fault where
  | misplacedBracket
  | bracketed (fault : Numeric.Fault)
  /-- A character of the authority is another form of one that divides
  addresses. -/
  | disguise (authority : List Char)
  | socketNotNumber (text : List Char)
  | socketTooLong (digits : Nat)
  | socketTooLarge
  /-- The host has no plain form. -/
  | notPlain (fault : Label.Fault)
  /-- The plain form of the host stands for nothing. -/
  | notShown (fault : Label.Fault)
  deriving DecidableEq

def Fault.message : Fault → String
  | .misplacedBracket => "Invalid IPv6 URL"
  | .bracketed fault => fault.message
  | .disguise authority =>
    "netloc '" ++ String.ofList authority ++
      "' contains invalid characters under NFKC normalization"
  | .socketNotNumber text =>
    "Port could not be cast to integer value as " ++ Text.quoted (String.ofList text)
  | .socketTooLong digits =>
    "Exceeds the limit (" ++ toString Text.digitLimit ++
      " digits) for integer string conversion: value has " ++ toString digits ++
      " digits; use sys.set_int_max_str_digits() to increase the limit"
  | .socketTooLarge => "Port out of range 0-65535"
  | .notPlain fault => fault.message "encoding"
  | .notShown fault => fault.message "decoding"

/-- What stands behind the first place of a character. -/
def behind (c : Char) (text : List Char) : List Char :=
  (text.dropWhile (· ≠ c)).drop 1

/-- What an authority says before its last at sign. -/
def userPart (text : List Char) : List Char :=
  ((text.reverse.dropWhile (· ≠ '@')).drop 1).reverse

/-- What an authority says behind its last at sign. -/
def hostPart (text : List Char) : List Char :=
  (text.reverse.takeWhile (· ≠ '@')).reverse

/-- The host in the host part of an authority. Brackets let it have colons. -/
def hostIn (text : List Char) : List Char :=
  if text.contains '[' then (behind '[' text).takeWhile (· ≠ ']')
  else text.takeWhile (· ≠ ':')

/-- The socket in the host part of an authority. -/
def socketIn (text : List Char) : List Char :=
  if text.contains '[' then behind ':' (behind ']' (behind '[' text)) else behind ':' text

def ofText (text : List Char) : Authority where
  user := (userPart text).takeWhile (· ≠ ':')
  password := behind ':' (userPart text)
  host := hostIn (hostPart text)
  socket := socketIn (hostPart text)

/-- Whether brackets stand at the front of a host part, with nothing behind them
but a socket. -/
def bracketsFit (text : List Char) : Bool :=
  match text with
  | '[' :: rest => (behind ']' rest).isEmpty || (behind ']' rest).head? = some ':'
  | _ => !text.contains '['

/-- Refuses brackets that do not come in pairs or do not stand around a numeric
host. Where there are brackets elsewhere, the host has to be numeric too. -/
def checkBrackets (text : List Char) : Except Fault Unit :=
  if text.contains '[' != text.contains ']' then .error .misplacedBracket
  else if !text.contains '[' then .ok ()
  else if !bracketsFit (hostPart text) then .error .misplacedBracket
  else
    match Numeric.check (hostIn (hostPart text)) with
    | .ok () => .ok ()
    | .error fault => .error (.bracketed fault)

/-- The other forms of the characters that divide addresses: full-width and small
ones, and signs that hold one. -/
def disguises : List Char :=
  ['\u2047', '\u2048', '\u2049', '\u2100', '\u2101', '\u2105', '\u2106', '\u2A74', '\uFE13',
    '\uFE16', '\uFE55', '\uFE56', '\uFE5F', '\uFE6B', '\uFF03', '\uFF0F', '\uFF1A', '\uFF1F',
    '\uFF20']

/-- Refuses the text of an authority that cannot be taken apart safely. -/
def check (text : List Char) : Except Fault Unit := do
  checkBrackets text
  if text.any disguises.contains then throw (.disguise text)

/-- The number of a socket, if there is one. -/
def socketNumber? (socket : List Char) : Except Fault (Option Nat) :=
  if socket.isEmpty then .ok none
  else if !socket.all Char.isDigit then .error (.socketNotNumber socket)
  else if Text.digitLimit < socket.length then .error (.socketTooLong socket.length)
  else
    let n := Text.ofDigits socket
    if n < 0x10000 then .ok (some n) else .error .socketTooLarge

/-- A host in lower case, as far as that is in ASCII: the rest is folded with its
label. A zone keeps its case. -/
def lowerHost (host : List Char) : List Char :=
  (host.takeWhile (· ≠ '%')).map Text.lowerChar ++ host.dropWhile (· ≠ '%')

/-- The text of an authority, with a form for hosts and one for users. A password
without a user is dropped. -/
def write (hostForm : List Char → Except Fault (List Char)) (userForm : List Char → List Char)
    (a : Authority) : Except Fault (List Char) := do
  let host ← if a.host.isEmpty then pure [] else hostForm (lowerHost a.host)
  let host := if host.contains ':' then '[' :: host ++ [']'] else host
  let socket := match ← socketNumber? a.socket with
    | some n => ':' :: Nat.toDigits 10 n
    | none => []
  let password := if a.password.isEmpty then [] else ':' :: userForm a.password
  let user := if a.user.isEmpty then [] else userForm a.user ++ password ++ ['@']
  return user ++ host ++ socket

/-- The plain form of an authority, which is in ASCII. -/
def plain (text : List Char) : Except Fault (List Char) :=
  write (fun host => (Label.plainName host).mapError .notPlain) Percent.escapeUser (ofText text)

/-- The plain form of an authority as it is shown. -/
def shown (text : List Char) : Except Fault (List Char) :=
  write (fun host => (Label.shownName host).mapError .notShown) Percent.resolveUser (ofText text)

end Authority

end StageZero.Web
