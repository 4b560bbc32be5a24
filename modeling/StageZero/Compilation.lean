import StageZero.Document
import StageZero.Generator.Statement
import StageZero.Token.Scan
import StageZero.Trace

/-!
# Compilation

From a source text to a C document: scan, generate, assemble. A compilation
either has a result or stops at the first fault; in both cases it may have kept
a trace, which changes nothing else.
-/

namespace StageZero

/-- How deep blocks, groups and calls may be nested in each other. -/
def nestingLimit : Nat := 1000

/-- The document of a token list, or the fault that stopped the generator,
with the state it was left in. -/
def generate (tokens : List Token) (report : Report) : Except Failure String × State :=
  match Gen.run nestingLimit (State.ofTokens tokens report false) with
  | .ok _ s => (.ok s.output.document, s)
  | .error e s => (.error e, s)

/-- What a compilation gives. -/
structure Compilation where
  document : String
  main : String
  functions : String
  functionNames : List String
  types : TypeTable
  tokens : List Token
  warnings : List Diagnostic
  deriving DecidableEq

namespace Compilation

/-- The results of a generator that has finished. -/
def ofState (tokens : List Token) (s : State) : Compilation where
  document := s.output.document
  main := s.output.mainText
  functions := s.output.functionsText
  functionNames := s.output.names.toList
  types := s.types
  tokens := tokens
  warnings := s.report.warnings.toList

end Compilation

/-- What a failure says: for a fault, its diagnostic in one line. -/
def Failure.message : Failure → String
  | .fault _ d _ => d.format
  | .notBuiltin kind => kind.name ++ " is no builtin"
  | .noToken => "no such token"

/-- A compilation and its trace. The trace is empty unless it is asked for. -/
structure Outcome where
  result : Except Failure Compilation
  trace : String

def compile (debug : Bool) (source : String) : Outcome :=
  let tokens := tokenize source
  let opening := if debug then Trace.opening source tokens else ""
  match Gen.run nestingLimit (State.ofTokens tokens (.ofSource source) debug) with
  | .ok _ s =>
    { result := .ok (.ofState tokens s)
      trace :=
        if debug then
          opening ++ Trace.events s.trace.toList ++ Trace.closing s s.output.document
        else "" }
  | .error e s =>
    { result := .error e
      trace :=
        if debug then opening ++ Trace.events s.trace.toList ++ Trace.stopped e.message s.report
        else "" }

end StageZero
