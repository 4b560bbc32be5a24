/-!
# Case

Words in plain letters are compared with texts in one case. Beyond ASCII only
those characters change that have their other case in ASCII, since no other can
become part of such a word.
-/

namespace StageZero.Text

/-- A character in lower case. The sign of the kelvin is a capital too. -/
def lowerChar (c : Char) : Char :=
  if c = '\u212A' then 'k' else c.toLower

def lower (text : String) : String :=
  String.ofList (text.toList.map lowerChar)

/-- A character in upper case. Letters that are written as one come apart. -/
def upperChar : Char → List Char
  | 'ß' => ['S', 'S']
  | 'ı' => ['I']
  | 'ſ' => ['S']
  | 'ﬀ' => ['F', 'F']
  | 'ﬁ' => ['F', 'I']
  | 'ﬂ' => ['F', 'L']
  | 'ﬃ' => ['F', 'F', 'I']
  | 'ﬄ' => ['F', 'F', 'L']
  | 'ﬅ' | 'ﬆ' => ['S', 'T']
  | c => [c.toUpper]

def upper (text : String) : String :=
  String.ofList (text.toList.flatMap upperChar)

end StageZero.Text
