import StageZero.Token.Spelling

/-!
# Lexemes

A source text is cut into lexemes from left to right, each the longest piece of
its class. The class is decided by the first character, and by the second only
for comments and for the two-character symbols. Blanks and comments are lexemes
too: they leave no token behind, but keeping them makes the lexemes tile the
text, so that every position is the length of what came before.

The main fact here is `lexemes_tile`: written one after the other, the lexemes
are the text.
-/

namespace StageZero

/-- One piece of source text, by class. -/
inductive Lexeme where
  /-- A line break. -/
  | newline
  /-- A run of spaces, tabs and carriage returns. -/
  | blank (run : List Char)
  /-- The text of a comment after its two slashes, up to the end of the line. -/
  | comment (text : List Char)
  /-- What stands between the quotes of a string literal, as written. A literal
  that is not closed runs to the end of the text. -/
  | literal (body : List Char) (closed : Bool)
  /-- A run of decimal digits. -/
  | number (digits : List Char)
  /-- A keyword or an identifier. -/
  | word (text : List Char)
  /-- An operator or a delimiter. -/
  | symbol (text : List Char) (kind : TokenKind)
  /-- A character that starts nothing. -/
  | illegal (c : Char)
  deriving DecidableEq

namespace Lexeme

def chars : Lexeme → List Char
  | .newline => ['\n']
  | .blank run => run
  | .comment text => '/' :: '/' :: text
  | .literal body closed => '"' :: body ++ (if closed then ['"'] else [])
  | .number digits => digits
  | .word text => text
  | .symbol text _ => text
  | .illegal c => [c]

/-- Resolves the escaped quotes of a literal's body. No other escape is
resolved: they mean the same in C. -/
def unescape : List Char → List Char
  | '\\' :: '"' :: rest => '"' :: unescape rest
  | c :: rest => c :: unescape rest
  | [] => []

/-- The kind and the value of the token a lexeme stands for; blanks and
comments stand for none. -/
def token? : Lexeme → Option (TokenKind × String)
  | .newline => some (.newline, "\\n")
  | .blank _ => none
  | .comment _ => none
  | .literal body _ => some (.string, String.ofList (unescape body))
  | .number digits => some (.integer, String.ofList digits)
  | .word text => some (wordKind (String.ofList text), String.ofList text)
  | .symbol text kind => some (kind, String.ofList text)
  | .illegal c => some (.unknown, String.ofList [c])

/-- Blanks between tokens. Other white space is illegal. -/
def isSpace (c : Char) : Bool :=
  c == ' ' || c == '\t' || c == '\r'

def startsWord (c : Char) : Bool :=
  c.isAlpha || c == '_'

def inWord (c : Char) : Bool :=
  startsWord c || c.isDigit

/-- Splits the text after an opening quote into the literal's body and the
rest, which is empty or starts with the closing quote. A quote right after a
backslash does not close. -/
def splitBody : List Char → List Char × List Char
  | [] => ([], [])
  | '"' :: rest => ([], '"' :: rest)
  | '\\' :: '"' :: rest => ('\\' :: '"' :: (splitBody rest).1, (splitBody rest).2)
  | c :: rest => (c :: (splitBody rest).1, (splitBody rest).2)

/-- The literal that starts with a quote, and the text behind it. -/
def splitLiteral (text : List Char) : Lexeme × List Char :=
  match splitBody text with
  | (body, _ :: rest) => (.literal body true, rest)
  | (body, []) => (.literal body false, [])

/-- The symbol or the illegal character at the head of a text. A two-character
symbol is taken whole. -/
def splitSymbol (c : Char) (text : List Char) : Lexeme × List Char :=
  match text with
  | d :: rest =>
    match symbolKind? [c, d] with
    | some kind => (.symbol [c, d] kind, rest)
    | none =>
      match symbolKind? [c] with
      | some kind => (.symbol [c] kind, text)
      | none => (.illegal c, text)
  | [] =>
    match symbolKind? [c] with
    | some kind => (.symbol [c] kind, text)
    | none => (.illegal c, text)

/-- The first lexeme of the text `c :: text`, and what follows it. -/
def split (c : Char) (text : List Char) : Lexeme × List Char :=
  if c = '\n' then (.newline, text)
  else if isSpace c then (.blank (c :: text.takeWhile isSpace), text.dropWhile isSpace)
  else if c = '/' ∧ text.head? = some '/' then
    (.comment (text.tail.takeWhile (· ≠ '\n')), text.tail.dropWhile (· ≠ '\n'))
  else if c = '"' then splitLiteral text
  else if c.isDigit then (.number (c :: text.takeWhile Char.isDigit), text.dropWhile Char.isDigit)
  else if startsWord c then (.word (c :: text.takeWhile inWord), text.dropWhile inWord)
  else splitSymbol c text

theorem splitBody_append (text : List Char) :
    (splitBody text).1 ++ (splitBody text).2 = text := by
  fun_induction splitBody text <;> simp_all

/-- What follows a literal's body is nothing or the closing quote. -/
theorem splitBody_rest (text : List Char) :
    (splitBody text).2 = [] ∨ ∃ rest, (splitBody text).2 = '"' :: rest := by
  fun_induction splitBody text <;> simp_all

theorem splitLiteral_chars (text : List Char) :
    (splitLiteral text).1.chars ++ (splitLiteral text).2 = '"' :: text := by
  have happ := splitBody_append text
  have hrest := splitBody_rest text
  unfold splitLiteral
  split <;> rename_i h <;> rw [h] at happ hrest <;> simp_all [chars]

theorem splitSymbol_chars (c : Char) (text : List Char) :
    (splitSymbol c text).1.chars ++ (splitSymbol c text).2 = c :: text := by
  unfold splitSymbol
  repeat' split
  all_goals simp [chars]

/-- The first lexeme and the rest make up the text. -/
theorem split_chars (c : Char) (text : List Char) :
    (split c text).1.chars ++ (split c text).2 = c :: text := by
  unfold split
  split
  · next h => simp [chars, h]
  split
  · simp [chars]
  split
  · next h =>
    obtain ⟨rfl, hh⟩ := h
    cases text with
    | nil => simp at hh
    | cons d rest =>
      obtain rfl : d = '/' := by simpa using hh
      simp [chars]
  split
  · next h => rw [h]; exact splitLiteral_chars text
  split
  · simp [chars]
  split
  · simp [chars]
  · exact splitSymbol_chars c text

theorem splitSymbol_nonempty (c : Char) (text : List Char) :
    0 < (splitSymbol c text).1.chars.length := by
  unfold splitSymbol
  repeat' split
  all_goals simp [chars]

/-- No lexeme is empty. -/
theorem split_nonempty (c : Char) (text : List Char) : 0 < (split c text).1.chars.length := by
  unfold split
  repeat' split
  all_goals first
    | exact splitSymbol_nonempty c text
    | (unfold splitLiteral; split <;> simp [chars])
    | simp [chars]

theorem split_length_lt (c : Char) (text : List Char) :
    (split c text).2.length < (c :: text).length := by
  have h := congrArg List.length (split_chars c text)
  have hpos := split_nonempty c text
  rw [List.length_append] at h
  omega

end Lexeme

def lexemes : List Char → List Lexeme
  | [] => []
  | c :: text => (Lexeme.split c text).1 :: lexemes (Lexeme.split c text).2
termination_by text => text.length
decreasing_by exact Lexeme.split_length_lt c text

/-- The lexemes tile the text. -/
theorem lexemes_tile (text : List Char) : (lexemes text).flatMap Lexeme.chars = text := by
  fun_induction lexemes text with
  | case1 => rfl
  | case2 c text ih => rw [List.flatMap_cons, ih, Lexeme.split_chars]

end StageZero
