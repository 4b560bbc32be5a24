import StageZero.Web.Framework.Authority

/-!
# Addresses

The address of a request has a scheme, an authority and a path, and may leave
out any of them. Control characters and spaces before an address do not count,
nor do tabs and line breaks inside it. What follows a question mark or a number
sign belongs to no path.
-/

namespace StageZero.Web

/-- An address in its parts. -/
structure Address where
  scheme : List Char := []
  authority : List Char := []
  path : List Char := []
  deriving DecidableEq

namespace Address

/-- Whether a character does not count before an address. -/
def isPadding (c : Char) : Bool :=
  c.toNat ≤ 0x20

/-- Whether a character does not count inside an address. -/
def isBreak (c : Char) : Bool :=
  c == '\t' || c == '\r' || c == '\n'

/-- An address without the characters that do not count. -/
def clean (text : List Char) : List Char :=
  (text.dropWhile isPadding).filter fun c => !isBreak c

/-- Whether a character may stand in a scheme. -/
def inScheme (c : Char) : Bool :=
  c.isAlphanum || c == '+' || c == '-' || c == '.'

/-- An address cut behind its scheme, which begins with a letter and ends with a
colon. -/
def splitScheme (text : List Char) : List Char × List Char :=
  match text, text.dropWhile inScheme with
  | first :: _, ':' :: rest =>
    if first.isAlpha then ((text.takeWhile inScheme).map Char.toLower, rest) else ([], text)
  | _, _ => ([], text)

def endsAuthority (c : Char) : Bool :=
  c == '/' || c == '?' || c == '#'

/-- An address without scheme, cut behind its authority, which two slashes
introduce. -/
def splitAuthority : List Char → List Char × List Char
  | '/' :: '/' :: rest =>
    (rest.takeWhile fun c => !endsAuthority c, rest.dropWhile fun c => !endsAuthority c)
  | text => ([], text)

def read (text : List Char) : Except Authority.Fault Address := do
  let (scheme, rest) := splitScheme (clean text)
  let (authority, rest) := splitAuthority rest
  Authority.check authority
  return ⟨scheme, authority, rest.takeWhile fun c => c ≠ '?' && c ≠ '#'⟩

/-- The schemes whose addresses have the two slashes of an authority also where
they name none. -/
def slashedSchemes : List String :=
  ["ftp", "http", "gopher", "nntp", "telnet", "imap", "wais", "file", "mms", "https", "shttp",
    "snews", "prospero", "rtsp", "rtsps", "rtspu", "rsync", "svn", "svn+ssh", "sftp", "nfs",
    "git", "git+ssh", "ws", "wss", "itms-services"]

/-- Whether an address is written with the slashes of an authority. -/
def isSlashed (a : Address) : Bool :=
  !a.authority.isEmpty ||
    (slashedSchemes.contains (String.ofList a.scheme) && a.path.take 2 ≠ ['/', '/'])

/-- An address as text. Behind an authority a path begins with a slash. -/
def text (a : Address) : List Char :=
  let scheme := if a.scheme.isEmpty then [] else a.scheme ++ [':']
  if a.isSlashed then
    let slash := if a.path.isEmpty || a.path.head? = some '/' then [] else ['/']
    scheme ++ '/' :: '/' :: a.authority ++ slash ++ a.path
  else scheme ++ a.path

/-- The scheme of an address that names none. -/
def usualScheme : List Char := "http".toList

/-- The authority of an address that names none. -/
def usualAuthority : List Char := "localhost".toList

/-- The address that a request asks for, its authority in plain form. A path can
read like an address itself, and is then taken as one: its own path is what is
asked for, and if that reads like an address once more it is brought into its
usual form. -/
def requested (text : List Char) : Except Authority.Fault Address := do
  let whole ← read text
  let inner ← read whole.path
  let rest ← read inner.path
  let path := { rest with authority := ← Authority.plain rest.authority }.text
  let scheme := if whole.scheme.isEmpty then usualScheme else whole.scheme
  let authority ←
    Authority.plain (if whole.authority.isEmpty then usualAuthority else whole.authority)
  Authority.check authority
  return ⟨scheme, authority, path⟩

/-- The socket that a scheme uses, as it ends an authority. -/
def schemeSocket (scheme : List Char) : List Char :=
  if ["http", "ws"].contains (String.ofList scheme) then ":80".toList
  else if ["https", "wss"].contains (String.ofList scheme) then ":443".toList
  else []

/-- The authority of an address without the socket that its scheme uses anyway. -/
def shortAuthority (a : Address) : List Char :=
  let socket := schemeSocket a.scheme
  if socket.isSuffixOf a.authority then a.authority.take (a.authority.length - socket.length)
  else a.authority

/-- Refuses an address whose authority cannot be shown, or cannot be taken apart as
it is shown. -/
def checkShown (a : Address) : Except Authority.Fault Unit := do
  Authority.check (← Authority.shown a.shortAuthority)

/-- Whether the front of an authority, up to a colon, has the labels of a name. -/
def hasLabels (a : Address) : Bool :=
  match Label.checkLengths (a.shortAuthority.takeWhile (· ≠ ':')) with
  | .ok () => true
  | .error _ => false

end Address

end StageZero.Web
