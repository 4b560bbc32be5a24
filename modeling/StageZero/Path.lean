import StageZero.Text

/-!
# Paths

Paths are texts cut at slashes. The extension of a path starts at the last dot
of its last component, but the dots that component begins with never start one,
so a hidden file has no extension.
-/

namespace StageZero.Path

/-- A path cut behind its last slash: the directory part, slash included, and
the last component. -/
def splitLast (path : List Char) : List Char × List Char :=
  ((path.reverse.dropWhile (· ≠ '/')).reverse, (path.reverse.takeWhile (· ≠ '/')).reverse)

/-- A text cut before its last dot. -/
def splitDot (text : List Char) : List Char × List Char :=
  match text.reverse.dropWhile (· ≠ '.') with
  | [] => (text, [])
  | dot :: before => (before.reverse, dot :: (text.reverse.takeWhile (· ≠ '.')).reverse)

/-- A path cut before its extension. The second part is empty if there is
none, and starts with a dot otherwise. -/
def splitExtension (path : List Char) : List Char × List Char :=
  let (directory, last) := splitLast path
  let dots := last.takeWhile (· = '.')
  let (stem, extension) := splitDot (last.dropWhile (· = '.'))
  (directory ++ dots ++ stem, extension)

/-- The executable built from a C file: its path without the extension. A path
that has none gets one, so that the executable never replaces the C file. -/
def executable (path : String) : String :=
  let (stem, extension) := splitExtension path.toList
  if extension = [] then String.ofList stem ++ ".out" else String.ofList stem

/-- Whether a path starts at the root. -/
def isAbsolute (path : String) : Bool :=
  path.toList.head? == some '/'

/-- Whether a path holds a null character. No system takes such a path. -/
def holdsNull (path : String) : Bool :=
  path.toList.contains '\x00'

/-- The components of a path, empty ones included. -/
def components (path : String) : List String :=
  (Text.cut '/' path.toList).map String.ofList

/-- Components without empty and dot components, each double dot taken together
with the component it undoes. Above the root of an absolute path there is
nothing; a relative path keeps the double dots it begins with. The components
are kept backwards. -/
def collapse (absolute : Bool) : List String → List String → List String
  | kept, [] => kept
  | kept, part :: rest =>
    if part = "" ∨ part = "." then collapse absolute kept rest
    else if part = ".." then
      match kept with
      | [] => collapse absolute (if absolute then [] else [".."]) rest
      | last :: before =>
        if last = ".." then collapse absolute (".." :: kept) rest
        else collapse absolute before rest
    else collapse absolute (part :: kept) rest

def normalize (path : String) : String :=
  let slashes := (path.toList.takeWhile (· = '/')).length
  let absolute := slashes ≠ 0
  let parts := (collapse absolute [] (components path)).reverse
  let root := if slashes = 2 then "//" else if absolute then "/" else ""
  let text := root ++ Text.joinWith "/" parts
  if text = "" then "." else text

/-- The absolute form of a path, seen from a directory. -/
def absolute (directory path : String) : String :=
  if isAbsolute path then normalize path else normalize (directory ++ "/" ++ path)

end StageZero.Path
