import StageZero.Token.Basic

/-!
# The token cursor

The generator reads its tokens through a cursor that looks at one token, has
passed some and has others ahead. Moving on from the last token does nothing,
so there is always a token to look at, and since every list is sealed by an
end-of-input token, that last token is always the end of input.
-/

namespace StageZero

/-- A place in a list of tokens. -/
structure Cursor where
  /-- The tokens already read, the latest first. -/
  passed : List Token
  /-- The token the generator looks at. -/
  here : Token
  /-- The tokens not reached yet. -/
  ahead : List Token
  deriving DecidableEq

/-- The end-of-input token that follows a token directly. -/
def Token.eofAfter (t : Token) : Token :=
  .eof ⟨t.pos.index + t.value.length, t.pos.line, t.pos.column + t.value.length⟩

namespace Cursor

/-- A token followed by others, up to an end-of-input token that is supplied if
the last of them is none. -/
def terminate (t : Token) : List Token → List Token
  | [] => if t.kind = .eof then [] else [t.eofAfter]
  | u :: rest => u :: terminate u rest

/-- The cursor at the first token of a list. -/
def ofTokens : List Token → Cursor
  | [] => ⟨[], .eof .start, []⟩
  | t :: rest => ⟨[], t, terminate t rest⟩

def pos (c : Cursor) : Nat :=
  c.passed.length

def tokens (c : Cursor) : List Token :=
  c.passed.reverse ++ c.here :: c.ahead

def last (c : Cursor) : Token :=
  c.ahead.getLastD c.here

/-- The cursor one token on. At the last token it stays. -/
def next (c : Cursor) : Cursor :=
  match c.ahead with
  | [] => c
  | t :: rest => ⟨c.here :: c.passed, t, rest⟩

/-- Passes over line breaks, from a token on. -/
def dropNewlines (passed : List Token) (here : Token) : List Token → Cursor
  | [] => ⟨passed, here, []⟩
  | t :: rest =>
    if here.kind = .newline then dropNewlines (here :: passed) t rest
    else ⟨passed, here, t :: rest⟩

/-- The cursor at the next token that is no line break. -/
def skipNewlines (c : Cursor) : Cursor :=
  dropNewlines c.passed c.here c.ahead

/-- The token at an offset from the cursor. Beyond the end stands the last
token; before the beginning, tokens are counted back from the end, and there is
none once the count passes the first. -/
def peek? (c : Cursor) (offset : Int) : Option Token :=
  let i := c.pos + offset
  let n := c.tokens.length
  if n ≤ i then some c.last
  else if 0 ≤ i then c.tokens[i.toNat]?
  else if -n ≤ i then c.tokens[(n + i).toNat]?
  else none

@[simp] theorem tokens_next (c : Cursor) : c.next.tokens = c.tokens := by
  unfold next tokens
  split <;> simp_all

/-- Moving on leaves fewer tokens ahead, or none were left. -/
theorem ahead_next (c : Cursor) : c.next.ahead = c.ahead.tail := by
  unfold next
  split <;> simp_all

end Cursor

end StageZero
