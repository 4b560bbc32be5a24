import StageZero.Path

/-!
# Disks

A disk is a set of directories and of files with their contents, seen from one
directory and named by the components that lead to them from there. A path is
walked component by component: every step but the last has to be a directory.

Beyond that directory little is known. Those above it are there, and files can
be written in them, but not what they hold. Absolute paths lead to the null
device and to files in the directory for temporary ones, of which none is there
yet.
-/

namespace StageZero

/-- A place on a disk, as the components that lead to it. -/
abbrev Place := List String

/-- Directories, and files with their contents. -/
structure Disk where
  directories : List Place := []
  files : List (Place × ByteArray) := []

namespace Disk

/-- The longest name a component can have, in bytes. -/
def nameLimit : Nat := 255

/-- The longest path that is walked, in bytes. -/
def pathLimit : Nat := 4095

def isDirectory (d : Disk) (p : Place) : Bool :=
  p.all (· == "..") || d.directories.contains p

/-- The contents of the file at a place. -/
def contents? (d : Disk) (p : Place) : Option ByteArray :=
  d.files.lookup p

/-- The place above another, both kept backwards. The root is above itself;
places above any other start are counted in double dots. -/
def above (rooted : Bool) : Place → Place
  | [] => if rooted then [] else [".."]
  | last :: before => if last = ".." then ".." :: last :: before else before

/-- The place a path leads to, and whether the path insists on a directory
there. Places are kept backwards on the way. -/
def walk (isDirectory : Place → Bool) (rooted : Bool) :
    Place → List String → Option (Place × Bool)
  | here, [] => some (here.reverse, true)
  | here, [name] =>
    if isDirectory here.reverse then
      if name = "" ∨ name = "." then some (here.reverse, true)
      else if name = ".." then some ((above rooted here).reverse, true)
      else if name.utf8ByteSize ≤ nameLimit then some ((name :: here).reverse, false)
      else none
    else none
  | here, name :: rest =>
    if isDirectory here.reverse then
      if name = "" ∨ name = "." then walk isDirectory rooted here rest
      else if name = ".." then walk isDirectory rooted (above rooted here) rest
      else walk isDirectory rooted (name :: here) rest
    else none

/-- The place at which a path names a file, whether there is one or not. -/
def fileAt? (isDirectory : Place → Bool) (rooted : Bool) (path : String) : Option Place :=
  if pathLimit < path.utf8ByteSize then none
  else
    match walk isDirectory rooted [] (Path.components path) with
    | some (p, false) => if isDirectory p then none else some p
    | _ => none

/-- The place on a disk at which a path names a file. -/
def filePlace? (d : Disk) (path : String) : Option Place :=
  if Path.isAbsolute path then none else fileAt? d.isDirectory false path

/-- The directories right below the root that every system has. -/
def systemDirectories : List String :=
  ["dev", "etc", "home", "mnt", "opt", "proc", "root", "run", "srv", "sys", "tmp", "usr", "var"]

/-- Whether a place below the root is known to be a directory. -/
def isSystemDirectory : Place → Bool
  | [] => true
  | [name] => systemDirectories.contains name
  | _ => false

/-- The place below the root at which an absolute path names a file. -/
def systemPlace? (path : String) : Option Place :=
  if Path.isAbsolute path then fileAt? isSystemDirectory true path else none

/-- Whether a path names the null device, which is empty whenever it is read and
keeps nothing that is written to it. -/
def isNull (path : String) : Bool :=
  systemPlace? path == some ["dev", "null"]

/-- Whether a path names a temporary file outside the disk. -/
def isTemporary (path : String) : Bool :=
  match systemPlace? path with
  | some ["tmp", _] => true
  | _ => false

/-- The contents of the file at a path. -/
def read? (d : Disk) (path : String) : Option ByteArray :=
  if isNull path then some ByteArray.empty else (d.filePlace? path).bind d.contents?

/-- Whether a file can be written at a path. -/
def writable (d : Disk) (path : String) : Bool :=
  isNull path || isTemporary path || (d.filePlace? path).isSome

def put (d : Disk) (p : Place) (data : ByteArray) : Disk :=
  { d with files := (p, data) :: d.files.filter fun entry => entry.1 ≠ p }

/-- Writes a file at a path, if it can be written. -/
def write (d : Disk) (path : String) (data : ByteArray) : Disk :=
  match d.filePlace? path with
  | some p => d.put p data
  | none => d

/-- Makes a directory and those above it. -/
def makeDirectory (d : Disk) (p : Place) : Disk :=
  { d with directories := (List.range (p.length + 1)).map (p.take ·) ++ d.directories }

def placeOf (path : String) : Place :=
  (Path.collapse false [] (Path.components path)).reverse

/-- A disk with the given directories and files. The directories that hold a
file are made with it. -/
def ofEntries (directories : List String) (files : List (String × ByteArray)) : Disk :=
  let d := directories.foldl (fun d path => d.makeDirectory (placeOf path)) {}
  files.foldl
    (fun d file =>
      let p := placeOf file.1
      (d.makeDirectory p.dropLast).put p file.2)
    d

/-- The files that a disk has in or below the directory it is seen from, and that
another has not, or not with those contents. -/
def newer (d old : Disk) : List (String × ByteArray) :=
  (d.files.filter fun entry =>
    entry.1.head? ≠ some ".." &&
      match old.contents? entry.1 with
      | some data => data.toList ≠ entry.2.toList
      | none => true).map fun entry => (Text.joinWith "/" entry.1, entry.2)

end Disk

end StageZero
