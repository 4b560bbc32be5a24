import StageZero.Token.Basic
import StageZero.Token.Lexeme

/-!
# The scanner

The scanner walks the lexemes of a source text and gives each token the
position at which its lexeme begins. `Scanner.next` reads one token at a time
and stays at the end of the text once it has reached it; `tokenize` reads all
of them, and its answer ends with the one end-of-input token.
-/

namespace StageZero

/-- A scanner: the position it has reached and the lexemes it has not read. -/
structure Scanner where
  pos : Position
  ahead : List Lexeme
  deriving DecidableEq

namespace Scanner

/-- The scanner at the beginning of a source text. -/
def ofSource (source : String) : Scanner :=
  ⟨.start, lexemes source.toList⟩

/-- The next token from a position on, and the scanner behind it. -/
def nextFrom (pos : Position) : List Lexeme → Token × Scanner
  | [] => (.eof pos, ⟨pos, []⟩)
  | l :: rest =>
    match l.token? with
    | some (kind, value) => (⟨kind, value, pos⟩, ⟨pos.after l.chars, rest⟩)
    | none => nextFrom (pos.after l.chars) rest

/-- The next token, and the scanner behind it. -/
def next (s : Scanner) : Token × Scanner :=
  nextFrom s.pos s.ahead

/-- The next `n` tokens, each with the scanner behind it. -/
def take (s : Scanner) : Nat → List (Token × Scanner)
  | 0 => []
  | n + 1 => s.next :: take s.next.2 n

end Scanner

/-- The tokens of a list of lexemes that begins at a position. -/
def placeTokens (pos : Position) : List Lexeme → List Token
  | [] => [.eof pos]
  | l :: rest =>
    match l.token? with
    | some (kind, value) => ⟨kind, value, pos⟩ :: placeTokens (pos.after l.chars) rest
    | none => placeTokens (pos.after l.chars) rest

/-- All tokens of a source text, the end-of-input token last. -/
def tokenize (source : String) : List Token :=
  placeTokens .start (lexemes source.toList)

end StageZero
