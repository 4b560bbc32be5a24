import StageZero.Generator.State
import StageZero.Text.Quoted

/-!
# The trace

What a compilation says about itself when it is asked to: the tokens it found,
every step of the generator, the types and functions it ended up with. Phases
are set apart by rulers.
-/

namespace StageZero

namespace Token

/-- A token with all its fields, its value quoted. -/
def fields (t : Token) : String :=
  "Token(type=<TokenType." ++ t.kind.name ++ ": '" ++ t.kind.name ++ "'>, value=" ++
    Text.quoted t.value ++ ", index=" ++ toString t.pos.index ++ ", line=" ++
    toString t.pos.line ++ ", column=" ++ toString t.pos.column ++ ")"

end Token

def Event.text : Event → String
  | .expected wanted got =>
    "[CODEGEN] expect(): expected=" ++ wanted.name ++ ", got=" ++ got.fields ++ "\n"
  | .failed message tok =>
    "[ERROR " ++ Fault.code ++ "] " ++ message ++ " at " ++ tok.pos.text ++
      " value='" ++ tok.value ++ "'\n"
  | .expression result =>
    "[CODEGEN] expression -> " ++ result.code ++ " (" ++ result.kind.name ++ ")\n"
  | .function name params =>
    "[CODEGEN] function " ++ name ++ "(" ++ Text.joinWith ", " params ++ ")\n"
  | .skipped tok =>
    "[CODEGEN] skipped " ++ tok.kind.name ++ " '" ++ tok.value ++ "' at " ++ tok.pos.text ++ "\n"
  | .statement tok =>
    "[CODEGEN] statement " ++ tok.kind.name ++ " at " ++ tok.pos.text ++ "\n"

namespace Trace

/-- The lines for a list of events. -/
def events (es : List Event) : String :=
  Text.concat (es.map Event.text)

/-- The heading of a phase between two rulers. -/
def heading (rule : Char) (title : String) : String :=
  "\n" ++ Text.ruler rule ++ "\n" ++ title ++ "\n" ++ Text.ruler rule ++ "\n"

def tokenRow (number : Nat) (t : Token) : String :=
  "  Token " ++ Text.padLeft 3 (toString number) ++ ": " ++ Text.padRight 15 t.kind.name ++
    " | Value: '" ++ t.value ++ "' | Pos: " ++ t.pos.text ++ "\n"

/-- The token listing, numbered from a number on. -/
def tokenRows : Nat → List Token → List String
  | _, [] => []
  | n, t :: rest => tokenRow n t :: tokenRows (n + 1) rest

/-- What is said before the generator starts. -/
def opening (source : String) (tokens : List Token) : String :=
  heading '=' "DEBUG MODE - COMPILATION PROCESS" ++
    "Length: " ++ toString source.length ++ " characters\n" ++
    heading '-' "PHASE 1: LEXICAL ANALYSIS (Tokenization)" ++
    Text.concat (tokenRows 0 tokens) ++
    "\n  Total tokens: " ++ toString (tokens.length - 1) ++ " (excluding EOF)\n" ++
    heading '-' "PHASE 2: TRANSLATION (Parsing & C Emission)"

/-- What is said when the generator stops at a fault. -/
def stopped (message : String) (report : Report) : String :=
  "\n  SYNTAX ERROR: " ++ message ++ "\n" ++ report.text

def typeRow (entry : String × ValueKind) : String :=
  "    " ++ Text.padRight 20 entry.1 ++ " " ++ entry.2.name ++ "\n"

/-- What is said when the generator has finished. -/
def closing (s : State) (document : String) : String :=
  let functions :=
    if s.output.names.isEmpty then ""
    else "\n  Functions: " ++ Text.joinWith ", " s.output.names.toList ++ "\n"
  "\n  Type table:\n" ++ Text.concat (s.types.entries.map typeRow) ++ functions ++
    s.report.text ++
    heading '-' "PHASE 3: OUTPUT ASSEMBLY" ++
    "  Functions: " ++ toString s.output.functions.size ++ "\n" ++
    "  Main statements: " ++ toString s.output.main.size ++ "\n" ++
    "  Output length: " ++ toString document.length ++ " characters\n" ++
    heading '=' "COMPILATION COMPLETE" ++ "\n"

end Trace

end StageZero
