/-!
# Text

Small operations on text that several printed forms share.
-/

namespace StageZero.Text

/-- The stretches of a text between the places where a character stands, empty
ones included. There is always at least one. -/
def cut (mark : Char) : List Char → List (List Char)
  | [] => [[]]
  | c :: rest =>
    if c = mark then [] :: cut mark rest
    else
      match cut mark rest with
      | [] => [[c]]
      | part :: parts => (c :: part) :: parts

/-- The lines of a text, cut at line breaks. -/
def lines (text : String) : List String :=
  (cut '\n' text.toList).map String.ofList

def repeated (n : Nat) (c : Char) : String :=
  String.ofList (List.replicate n c)

def ruler (c : Char) : String :=
  repeated 70 c

/-- A text filled up with spaces on the right to a least width. -/
def padRight (width : Nat) (text : String) : String :=
  text ++ repeated (width - text.length) ' '

/-- A text filled up with spaces on the left to a least width. -/
def padLeft (width : Nat) (text : String) : String :=
  repeated (width - text.length) ' ' ++ text

/-- A text without the given character at its end. -/
def dropEnd (c : Char) (text : String) : String :=
  String.ofList (text.toList.reverse.dropWhile (· == c)).reverse

/-- A line without the line break at its end. -/
def dropLineEnd (line : String) : String :=
  if line.toList.getLast? = some '\n' then String.ofList line.toList.dropLast else line

def concat (parts : List String) : String :=
  parts.foldl (· ++ ·) ""

/-- Texts written with a separator between each two. -/
def joinWith (separator : String) : List String → String
  | [] => ""
  | [text] => text
  | text :: rest => text ++ separator ++ joinWith separator rest

/-- A text without its first `n` characters. -/
def drop (n : Nat) (text : String) : String :=
  String.ofList (text.toList.drop n)

theorem cut_ne_nil (mark : Char) (text : List Char) : cut mark text ≠ [] := by
  cases text with
  | nil => simp [cut]
  | cons c rest =>
    unfold cut
    split
    · simp
    · split <;> simp

end StageZero.Text
