import StageZero.Compilation
import StageZero.Text.Blank
import StageZero.Token.Spelling
import StageZero.Web.Json

/-!
# The endpoint

What the web service does itself: it lists the keywords, and it compiles the
source text in the body of a request. The body has been read by then, into a
value. The endpoint is given the compiler to use, since it promises an answer
also when the compiler breaks down.
-/

namespace StageZero.Web

/-- What a response carries. -/
inductive Body where
  | nothing
  | page (text : String)
  | json (value : Json)

/-- A response, and what the service writes to its log. -/
structure Response where
  status : Nat
  body : Body := .nothing
  log : String := ""

/-- What the compiler in use makes of a source text. -/
inductive Attempt where
  | finished (outcome : Outcome)
  /-- It broke down: the reason, what it had printed, and where it was. -/
  | broken (message printed backtrace : String)

/-- A compiler, with a trace or without. -/
abbrev Compiler := Bool → String → Attempt

def compiler : Compiler :=
  fun debug source => .finished (compile debug source)

/-- A list of texts as a value. -/
def texts (ts : List String) : Json :=
  .array (ts.map .string)

def number (n : Nat) : Json :=
  .integer n

def diagnosticJson (d : Diagnostic) : Json :=
  .object [("code", .string d.code), ("message", .string d.message),
    ("line", .integer d.pos.line), ("column", .integer d.pos.column),
    ("index", .integer d.pos.index), ("token_value", .string d.tokenValue),
    ("context", .string d.context), ("pointer", .string d.pointer)]

def tokenJson (number : Nat) (t : Token) : Json :=
  .object [("num", .integer number), ("type", .string t.kind.name), ("value", .string t.value),
    ("line", .integer t.pos.line), ("column", .integer t.pos.column),
    ("index", .integer t.pos.index)]

/-- Tokens as values, numbered from a number on. -/
def tokensJson : Nat → List Token → List Json
  | _, [] => []
  | n, t :: rest => tokenJson n t :: tokensJson (n + 1) rest

/-- The fields of an answer without C. -/
def emptyAnswer (error : String) (errors : List Diagnostic) (trace : String) :
    List (String × Json) :=
  [("error", .string error), ("c_code", .string ""),
    ("errors", .array (errors.map diagnosticJson)), ("warnings", .array []),
    ("debug_output", .string trace)]

/-- The fields of an answer with C. -/
def answerFields (c : Compilation) : List (String × Json) :=
  [("c_code", .string c.document), ("errors", .array []),
    ("warnings", .array (c.warnings.map diagnosticJson)),
    ("types", .object (c.types.entries.map fun e => (e.1, .string e.2.name))),
    ("functions", texts c.functionNames)]

/-- The fields that a trace adds to an answer. -/
def traceFields (c : Compilation) (trace : String) : List (String × Json) :=
  [("debug_output", .string trace), ("tokens", .array (tokensJson 0 c.tokens)),
    ("debug_metadata", .object [("output_length", number trace.length),
      ("tokens_count", number c.tokens.length), ("c_code_length", number c.document.length)])]

def respond (use : Compiler) (debug : Bool) (source : String) : Response :=
  match use debug source with
  | .finished ⟨.ok c, trace⟩ =>
    if debug then
      { status := 200
        body := .json (.object (answerFields c ++ traceFields c trace))
        log := "[SERVER DEBUG] Captured " ++ toString trace.length ++
          " characters of debug output\n" }
    else { status := 200, body := .json (.object (answerFields c)) }
  | .finished ⟨.error e, trace⟩ =>
    let errors := match e with
      | .fault _ d _ => [d]
      | _ => []
    { status := 400
      body := .json (.object (emptyAnswer e.message errors (if debug then trace else ""))) }
  | .broken message printed backtrace =>
    { status := 500
      body := .json (.object
        (emptyAnswer message [] (if debug then printed else "") ++
          [("traceback", if debug then .string backtrace else .null)]))
      log := "Translation error: " ++ message ++ "\n" }

/-- The source text of a request body and whether a trace is wanted. A source
of blanks alone is none. -/
def sourceOf? (body : Json) : Option (String × Bool) :=
  match body.field? "source" with
  | some (.string source) =>
    if Text.trim source = "" then none
    else some (source, ((body.field? "debug").map Json.truthy).getD false)
  | _ => none

/-- The response to a request to compile. -/
def compileRequest (use : Compiler) (body : Json) : Response :=
  match sourceOf? body with
  | some (source, debug) => respond use debug source
  | none =>
    { status := 400, body := .json (.object (emptyAnswer "No source provided" [] "")) }

def keywordsJson : Json :=
  .object (spellings.map fun row => (row.1.name, texts row.2))

end StageZero.Web
