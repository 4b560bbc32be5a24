import StageZero.Token.Kind

/-!
# Tokens and positions

A token is a kind, a value and the position of its first character. Positions
count characters: an index from zero, a line and a column from one. They are
integers, not naturals, because a token list can be handed to the generator
with any numbers in it, and the generator must carry those through unchanged.
-/

namespace StageZero

/-- A place in a source text. -/
structure Position where
  index : Int
  line : Int
  column : Int
  deriving DecidableEq

namespace Position

/-- Where a source text begins. -/
def start : Position := ⟨0, 1, 1⟩

/-- The position after one character: a line break starts a new line, every
other character is one column wide. -/
def step (p : Position) (c : Char) : Position :=
  if c = '\n' then ⟨p.index + 1, p.line + 1, 1⟩ else ⟨p.index + 1, p.line, p.column + 1⟩

/-- The position after a stretch of text. -/
def after (p : Position) (text : List Char) : Position :=
  text.foldl step p

@[simp] theorem after_nil (p : Position) : p.after [] = p := rfl

@[simp] theorem after_cons (p : Position) (c : Char) (cs : List Char) :
    p.after (c :: cs) = (p.step c).after cs := rfl

theorem after_append (p : Position) (a b : List Char) :
    p.after (a ++ b) = (p.after a).after b :=
  List.foldl_append

def text (p : Position) : String :=
  "line " ++ toString p.line ++ ", col " ++ toString p.column ++
    " (idx " ++ toString p.index ++ ")"

end Position

/-- One token. The value is the payload of a literal and the spelling of
everything else. -/
structure Token where
  kind : TokenKind
  value : String
  pos : Position
  deriving DecidableEq

def Token.eof (p : Position) : Token := ⟨.eof, "", p⟩

end StageZero
