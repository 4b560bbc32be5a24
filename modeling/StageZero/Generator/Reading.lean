import StageZero.Fragment
import StageZero.Generator.Cursor
import StageZero.Generator.Fault
import StageZero.Report

/-!
# Reading tokens

The part of the generator's state that reading touches: the cursor, the report
and the trace. Expressions are generated by reading alone, so they cannot
change the type table or the output; their type says so.

A failed step keeps the state it had reached. That is what `EStateM` gives: the
error comes with the state at the moment it was raised.
-/

namespace StageZero

/-- A step of the generator worth mentioning in a trace. -/
inductive Event where
  | expected (wanted : TokenKind) (got : Token)
  | failed (message : String) (tok : Token)
  | expression (result : Fragment)
  | function (name : String) (params : List String)
  | skipped (tok : Token)
  | statement (tok : Token)
  deriving DecidableEq

/-- Why a step has no answer. -/
inductive Failure where
  /-- The source text is at fault: the diagnostic that was reported, and the
  offending token. -/
  | fault (cause : Fault) (diagnostic : Diagnostic) (tok : Token)
  /-- A builtin was asked for at a token of another kind. -/
  | notBuiltin (kind : TokenKind)
  /-- A token was asked for outside the list. -/
  | noToken
  deriving DecidableEq

/-- What reading touches. -/
structure Reading where
  cursor : Cursor
  report : Report
  debug : Bool
  trace : Array Event
  deriving DecidableEq

/-- A step that reads tokens. -/
abbrev Read := EStateM Failure Reading

namespace Read

/-- Adds an event to the trace, if one is kept. -/
def note (e : Event) : Read Unit :=
  modify fun r => if r.debug then { r with trace := r.trace.push e } else r

def current : Read Token := do
  return (← get).cursor.here

/-- The token at an offset from the cursor. -/
def peek (offset : Int) : Read Token := do
  match (← get).cursor.peek? offset with
  | some tok => return tok
  | none => throw .noToken

/-- The number of tokens ahead of the cursor. No loop goes round more often
than this, give or take a last look at the end of input. -/
def remaining : Read Nat := do
  return (← get).cursor.ahead.length

def advance : Read Token := do
  let tok ← current
  modify fun r => { r with cursor := r.cursor.next }
  return tok

/-- Whether the token under the cursor is of a kind. -/
def check (kind : TokenKind) : Read Bool := do
  return decide ((← current).kind = kind)

/-- Reads a token if it is of a kind. -/
def accept (kind : TokenKind) : Read Bool := do
  if ← check kind then
    let _ ← advance
    return true
  else
    return false

/-- Stops at the token under the cursor. -/
def fail {α : Type} (cause : Fault) : Read α := do
  let tok ← current
  let d := (← get).report.diagnose Fault.code cause.message tok
  modify fun r => { r with report := r.report.addError d }
  note (.failed cause.message tok)
  throw (.fault cause d tok)

/-- Reads a token that must be of a kind. -/
def expect (kind : TokenKind) (cause : Fault) : Read Token := do
  let tok ← current
  note (.expected kind tok)
  if ← check kind then advance else fail cause

/-- Mentions a token that is passed over. -/
def remark (r : Remark) (tok : Token) : Read Unit :=
  modify fun s => { s with report := s.report.addWarning (s.report.diagnose r.code r.message tok) }

end Read

end StageZero
