import StageZero.Token.Basic
import StageZero.Support.Library

/-!
# Syntax trees

The generator builds no tree: it writes C while it reads. The trees of this
file are what it reads by, said on their own. There are two of them, one for
expressions and one for statements, and a tree keeps every token it was read
from, so that its yield is a piece of the token list and not a summary of it.

The grammar is the tolerant one. Next to the documented forms a statement may
be a name that stands alone or a token that starts nothing, a block may hold
line breaks, and at the top level a closing brace may stand where nothing is
open. Which of these trees are documented programs is a matter of a predicate,
and not of a second type.

A tree is not read from its tokens alone. The generator is greedy: a name
followed by a parenthesis is a call, an expression goes on as long as a part
can start, a branch takes the alternative that follows it even some lines down.
`Proper` and `Fits` say that a tree is the greedy one, the second by looking at
the tokens behind it.
-/

namespace StageZero

namespace TokenKind

/-- Kinds that start a part of an expression. -/
def startsPart : TokenKind → Bool
  | .integer | .string | .identifier | .lparen => true
  | .builtin _ => true
  | .operator _ => true
  | _ => false

/-- Kinds that are passed over where a statement is looked for. -/
def skippable : TokenKind → Bool
  | .keyword .elseK => true
  | .keyword _ => false
  | .builtin .readFile => false
  | .builtin _ => true
  | .identifier | .newline | .rbrace | .eof => false
  | _ => true

end TokenKind

namespace Tree

/-- A token whose kind is known from where it stands in a tree. -/
structure Mark where
  value : String
  pos : Position
  deriving DecidableEq

def Mark.as (m : Mark) (kind : TokenKind) : Token :=
  ⟨kind, m.value, m.pos⟩

@[simp] theorem Mark.as_kind (m : Mark) (kind : TokenKind) : (m.as kind).kind = kind := rfl

/-- A token is the token of a mark, once its kind is known. -/
theorem exists_mark {tok : Token} {kind : TokenKind} (h : tok.kind = kind) :
    ∃ m : Mark, tok = m.as kind := by
  subst h
  exact ⟨⟨tok.value, tok.pos⟩, rfl⟩

/-! ## Expressions -/

mutual

/-- A part of an expression. A builtin has as many arguments as its routine
takes; a call of a user's function has any number. -/
inductive Part where
  | integer (digits : Mark)
  | string (text : Mark)
  | name (name : Mark)
  | sign (o : Operator) (mark : Mark)
  | group (opening : Mark) (inner : Expr) (closing : Mark)
  | call (name opening : Mark) {n : Nat} (args : Args n) (closing : Mark)
  | builtin (word : Builtin) (mark opening : Mark) (args : Args word.routine.arity)
      (closing : Mark)

/-- An expression: a list of parts, possibly empty. -/
inductive Expr where
  | nil
  | cons (head : Part) (tail : Expr)

/-- Arguments, by their number. -/
inductive Args : Nat → Type where
  | none : Args 0
  | some {n : Nat} (first : Expr) (more : More n) : Args (n + 1)

/-- Arguments behind the first, each with its comma. -/
inductive More : Nat → Type where
  | nil : More 0
  | cons {n : Nat} (comma : Mark) (arg : Expr) (rest : More n) : More (n + 1)

end

mutual

/-- The tokens a part was read from, in their order. -/
def Part.yield : Part → List Token
  | .integer digits => [digits.as .integer]
  | .string text => [text.as .string]
  | .name name => [name.as .identifier]
  | .sign o mark => [mark.as (.operator o)]
  | .group opening inner closing => opening.as .lparen :: (inner.yield ++ [closing.as .rparen])
  | .call name opening args closing =>
    name.as .identifier :: opening.as .lparen :: (args.yield ++ [closing.as .rparen])
  | .builtin word mark opening args closing =>
    mark.as (.builtin word) :: opening.as .lparen :: (args.yield ++ [closing.as .rparen])

def Expr.yield : Expr → List Token
  | .nil => []
  | .cons head tail => head.yield ++ tail.yield

def Args.yield {n : Nat} : Args n → List Token
  | .none => []
  | .some first more => first.yield ++ more.yield

def More.yield {n : Nat} : More n → List Token
  | .nil => []
  | .cons comma arg rest => comma.as .comma :: (arg.yield ++ rest.yield)

end

mutual

/-- How deep expressions are nested in a part. -/
def Part.nesting : Part → Nat
  | .group _ inner _ => inner.nesting
  | .call _ _ args _ => args.nesting
  | .builtin _ _ _ args _ => args.nesting
  | _ => 0

/-- How deep expressions are nested in an expression, itself counted in. -/
def Expr.nesting : Expr → Nat
  | .nil => 1
  | .cons head tail => max (head.nesting + 1) tail.nesting

def Args.nesting {n : Nat} : Args n → Nat
  | .none => 0
  | .some first more => max first.nesting more.nesting

def More.nesting {n : Nat} : More n → Nat
  | .nil => 0
  | .cons _ arg rest => max arg.nesting rest.nesting

end

/-- Whether a part is a plain name. -/
def Part.isName : Part → Bool
  | .name _ => true
  | _ => false

/-- Whether an expression starts with a group. -/
def Expr.startsWithGroup : Expr → Bool
  | .cons (.group _ _ _) _ => true
  | _ => false

mutual

/-- All expressions inside a part are proper. -/
def Part.Proper : Part → Prop
  | .group _ inner _ => inner.Proper
  | .call _ _ args _ => args.Proper
  | .builtin _ _ _ args _ => args.Proper
  | _ => True

/-- No plain name is followed directly by a group, at any depth: that would be
a call. -/
def Expr.Proper : Expr → Prop
  | .nil => True
  | .cons head tail =>
    head.Proper ∧ ¬ (head.isName ∧ tail.startsWithGroup) ∧ tail.Proper

def Args.Proper {n : Nat} : Args n → Prop
  | .none => True
  | .some first more => first.Proper ∧ more.Proper

def More.Proper {n : Nat} : More n → Prop
  | .nil => True
  | .cons _ arg rest => arg.Proper ∧ rest.Proper

end

/-! ## Statements -/

/-- A condition in parentheses. -/
structure Test where
  opening : Mark
  value : Expr
  closing : Mark

def Test.yield (t : Test) : List Token :=
  t.opening.as .lparen :: (t.value.yield ++ [t.closing.as .rparen])

/-- The names of a parameter list, those behind the first with their commas. -/
inductive Params where
  | none
  | some (first : Mark) (more : List (Mark × Mark))

def Params.moreYield (more : List (Mark × Mark)) : List Token :=
  more.flatMap fun p => [p.1.as .comma, p.2.as .identifier]

def Params.yield : Params → List Token
  | .none => []
  | .some first more => first.as .identifier :: moreYield more

def Params.names : Params → List String
  | .none => []
  | .some first more => first.value :: more.map (·.2.value)

mutual

/-- A statement. The last two forms are tolerated and do nothing. -/
inductive Stmt where
  | declare (word name equal : Mark) (value : Expr)
  | print (word : Mark) (value : Expr)
  | loop (word : Mark) (test : Test) (body : Block)
  | branch (word : Mark) (test : Test) (body : Block) (links : Links) (other : Other)
  | function (word name opening : Mark) (params : Params) (closing : Mark) (body : Block)
  | give (word : Mark) (value : Expr)
  | writeFile (word opening : Mark) (name : Expr) (comma : Mark) (content : Expr)
      (closing : Mark)
  | readFile (word opening : Mark) (name : Expr) (closing : Mark)
  | assign (name equal : Mark) (value : Expr)
  | call (name opening : Mark) {n : Nat} (args : Args n) (closing : Mark)
  | idle (name : Mark)
  | skipped (tok : Token) (h : tok.kind.skippable = true)

/-- A block in braces. -/
inductive Block where
  | mk (opening : Mark) (items : Items) (closing : Mark)

/-- What stands in a block: line breaks and statements. -/
inductive Items where
  | nil
  | line (mark : Mark) (rest : Items)
  | stmt (s : Stmt) (rest : Items)

/-- The `else if` links of a branch, each with the line breaks before it. -/
inductive Links where
  | nil
  | cons (lines : List Mark) (other word : Mark) (test : Test) (body : Block) (rest : Links)

/-- The last alternative of a branch, if it has one. -/
inductive Other where
  | none
  | some (lines : List Mark) (word : Mark) (body : Block)

end

def Links.length : Links → Nat
  | .nil => 0
  | .cons _ _ _ _ _ rest => rest.length + 1

def lineYield (lines : List Mark) : List Token :=
  lines.map (·.as .newline)

mutual

/-- The tokens a statement was read from, in their order. -/
def Stmt.yield : Stmt → List Token
  | .declare word name equal value =>
    word.as (.keyword .varK) :: name.as .identifier :: equal.as .equal :: value.yield
  | .print word value => word.as (.keyword .printK) :: value.yield
  | .loop word test body => word.as (.keyword .whileK) :: (test.yield ++ body.yield)
  | .branch word test body links other =>
    word.as (.keyword .ifK) :: (test.yield ++ body.yield ++ links.yield ++ other.yield)
  | .function word name opening params closing body =>
    word.as (.keyword .functionK) :: name.as .identifier :: opening.as .lparen ::
      (params.yield ++ closing.as .rparen :: body.yield)
  | .give word value => word.as (.keyword .returnK) :: value.yield
  | .writeFile word opening name comma content closing =>
    word.as (.keyword .writeFileK) :: opening.as .lparen ::
      (name.yield ++ comma.as .comma :: (content.yield ++ [closing.as .rparen]))
  | .readFile word opening name closing =>
    word.as (.builtin .readFile) :: opening.as .lparen :: (name.yield ++ [closing.as .rparen])
  | .assign name equal value => name.as .identifier :: equal.as .equal :: value.yield
  | .call name opening args closing =>
    name.as .identifier :: opening.as .lparen :: (args.yield ++ [closing.as .rparen])
  | .idle name => [name.as .identifier]
  | .skipped tok _ => [tok]

def Block.yield : Block → List Token
  | .mk opening items closing => opening.as .lbrace :: (items.yield ++ [closing.as .rbrace])

def Items.yield : Items → List Token
  | .nil => []
  | .line mark rest => mark.as .newline :: rest.yield
  | .stmt s rest => s.yield ++ rest.yield

def Links.yield : Links → List Token
  | .nil => []
  | .cons lines other word test body rest =>
    lineYield lines ++ other.as (.keyword .elseK) :: word.as (.keyword .ifK) ::
      (test.yield ++ body.yield ++ rest.yield)

def Other.yield : Other → List Token
  | .none => []
  | .some lines word body => lineYield lines ++ word.as (.keyword .elseK) :: body.yield

end

mutual

/-- How deep blocks and expressions are nested in a statement, itself counted
in. Alternatives of one branch stand side by side. -/
def Stmt.nesting : Stmt → Nat
  | .declare _ _ _ value => value.nesting
  | .print _ value => value.nesting
  | .loop _ test body => max test.value.nesting (body.nesting + 1)
  | .branch _ test body links other =>
    max (max test.value.nesting (body.nesting + 1)) (max links.nesting other.nesting)
  | .function _ _ _ _ _ body => body.nesting + 1
  | .give _ value => value.nesting
  | .writeFile _ _ name _ content _ => max name.nesting content.nesting
  | .readFile _ _ name _ => name.nesting
  | .assign _ _ value => value.nesting
  | .call _ _ args _ => max 1 args.nesting
  | .idle _ => 1
  | .skipped _ _ => 1

def Block.nesting : Block → Nat
  | .mk _ items _ => items.nesting

/-- How deep statements are nested in what stands in a block. A line break is
passed over by the search for a statement, and counts as one. -/
def Items.nesting : Items → Nat
  | .nil => 0
  | .line _ rest => max 1 rest.nesting
  | .stmt s rest => max s.nesting rest.nesting

def Links.nesting : Links → Nat
  | .nil => 0
  | .cons _ _ _ test body rest => max (max test.value.nesting (body.nesting + 1)) rest.nesting

def Other.nesting : Other → Nat
  | .none => 0
  | .some _ _ body => body.nesting + 1

end

/-! ## The greedy tree -/

/-- The kind of the next token. Past the end stands the end of input. -/
def nextKind : List Token → TokenKind
  | [] => .eof
  | t :: _ => t.kind

/-- The kind of the next token that is no line break. -/
def nextKindPastLines (rest : List Token) : TokenKind :=
  nextKind (rest.dropWhile fun t => t.kind = .newline)

/-- An expression that ends where the tokens behind it begin. -/
def Expr.Ends (e : Expr) (rest : List Token) : Prop :=
  e.Proper ∧ (nextKind rest).startsPart = false

mutual

/-- The statement is the greedy one before the given tokens. -/
def Stmt.Fits (rest : List Token) : Stmt → Prop
  | .declare _ _ _ value => value.Ends rest
  | .print _ value => value.Ends rest
  | .loop _ test body => test.value.Proper ∧ body.Fits
  | .branch _ test body links other =>
    test.value.Proper ∧ body.Fits ∧ links.Fits ∧ other.Fits rest
  | .function _ _ _ _ _ body => body.Fits
  | .give _ value => value.Ends rest
  | .writeFile _ _ name _ content _ => name.Proper ∧ content.Proper
  | .readFile _ _ name _ => name.Proper
  | .assign _ _ value => value.Ends rest
  | .call _ _ args _ => args.Proper
  | .idle _ => nextKind rest ≠ .equal ∧ nextKind rest ≠ .lparen
  | .skipped _ _ => True

def Block.Fits : Block → Prop
  | .mk _ items closing => items.Fits [closing.as .rbrace]

/-- All statements are the greedy ones, the last of them before the given
tokens. -/
def Items.Fits (rest : List Token) : Items → Prop
  | .nil => True
  | .line _ items => items.Fits rest
  | .stmt s items => s.Fits (items.yield ++ rest) ∧ items.Fits rest

def Links.Fits : Links → Prop
  | .nil => True
  | .cons _ _ _ test body rest => test.value.Proper ∧ body.Fits ∧ rest.Fits

/-- A last alternative, or none to be found behind some line breaks. -/
def Other.Fits (rest : List Token) : Other → Prop
  | .none => nextKindPastLines rest ≠ .keyword .elseK
  | .some _ _ body => body.Fits

end

/-! ## Programs -/

/-- What stands at the top level. -/
inductive Top where
  | line (mark : Mark)
  | stray (mark : Mark)
  | stmt (s : Stmt)

def Top.yield : Top → List Token
  | .line mark => [mark.as .newline]
  | .stray mark => [mark.as .rbrace]
  | .stmt s => s.yield

/-- How deep blocks and expressions are nested at the top level. A line break
is passed over by the search for a statement, a brace is not. -/
def Top.nesting : Top → Nat
  | .line _ => 1
  | .stray _ => 0
  | .stmt s => s.nesting

def Top.Fits (rest : List Token) : Top → Prop
  | .stmt s => s.Fits rest
  | _ => True

/-- A program: line breaks, stray braces and statements. -/
abbrev Program := List Top

def yield (p : Program) : List Token :=
  p.flatMap Top.yield

def nesting : Program → Nat
  | [] => 0
  | t :: p => max t.nesting (nesting p)

/-- All statements of a program are the greedy ones, the last of them before
the given tokens. -/
def Fits (rest : List Token) : Program → Prop
  | [] => True
  | t :: p => t.Fits (yield p ++ rest) ∧ Fits rest p

@[simp] theorem yield_cons (t : Top) (p : Program) : yield (t :: p) = t.yield ++ yield p := rfl

end Tree

end StageZero
