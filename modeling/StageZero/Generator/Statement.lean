import StageZero.Generator.State

/-!
# Statements

A statement is chosen by its first token. Statements nest through blocks, and
as with expressions the recursion is on the depth that is left: every
construct takes the reader of its expressions and the generator of the
statements inside its blocks as arguments, and `statement` ties the knot.
Branches chained by `else if` stand side by side and cost no depth.

A token that starts no statement is passed over. It is an error only where a
construct has begun and a token it needs is missing.
-/

namespace StageZero.Read

/-- Moves the cursor to the next token that is no line break. -/
def skipLines : Read Unit :=
  modify fun r => { r with cursor := r.cursor.skipNewlines }

/-- Whether a word that opens an alternative comes next, line breaks aside.
If so the cursor moves up to it. -/
def elseFollows : Read Bool := do
  let c := (← get).cursor
  let after := c.skipNewlines
  if after.here.kind = .keyword .elseK then
    modify fun r => { r with cursor := after }
    return true
  else
    return false

/-- The names of a parameter list up to its closing parenthesis. -/
def parameters (first : Bool) : Nat → Read (List String)
  | 0 => pure []
  | n + 1 => do
    let tok ← current
    if tok.kind = .rparen ∨ tok.kind = .eof then return []
    unless first do
      let _ ← expect .comma .unseparatedParameters
    let name ← expect .identifier .missingParameter
    let rest ← parameters false n
    return name.value :: rest

/-- Passes over one token. Only illegal characters are mentioned. -/
def skip : Read Unit := do
  let tok ← advance
  if tok.kind = .unknown then remark .illegalCharacter tok
  note (.skipped tok)

end StageZero.Read

namespace StageZero.Gen

/-- An expression, read with the types declared so far. -/
def expression (depth : Nat) : Gen Fragment := do
  lift (Read.expression (← get).types depth)

def builtin (depth : Nat) : Gen Fragment := do
  lift (Read.builtin (Read.expression (← get).types depth))

/-- The arguments of a call, behind its opening parenthesis. -/
def callArguments (depth : Nat) : Gen String := do
  lift (Read.callArguments (Read.expression (← get).types depth))

def reference (depth : Nat) : Gen Fragment := do
  let types := (← get).types
  lift (Read.reference types (Read.expression types depth))

/-- Runs a step until a token of one of the given kinds is under the cursor. The
count only has to exceed the tokens that are left, since each step reads one. -/
def repeatUntil (stops : List TokenKind) (step : Gen Unit) : Nat → Gen Unit
  | 0 => pure ()
  | n + 1 => do
    let tok ← Read.current
    if tok.kind ∈ stops then return ()
    step
    repeatUntil stops step n

section

variable (expr : Gen Fragment) (inner : Gen Unit)

/-- The kind a variable gets from its value. -/
def variableKind (value : Fragment) : ValueKind :=
  if value.kind = .text then .text else .integer

def variableType (kind : ValueKind) : String :=
  if kind = .text then "char*" else "int"

/-- A declaration. The name is known only after its value. -/
def varDeclaration : Gen Unit := do
  let _ ← Read.advance
  let name ← Read.expect .identifier .missingVariable
  let _ ← Read.expect .equal .missingValue
  let value ← expr
  let kind := variableKind value
  emit (variableType kind ++ " " ++ name.value ++ " = " ++ value.code ++ ";")
  declare name.value kind

/-- The routine that prints a value of a kind. -/
def printRoutine (kind : ValueKind) : Routine :=
  if kind = .text then Support.printStr else Support.printInt

def printStatement : Gen Unit := do
  let _ ← Read.advance
  let value ← expr
  emit ((printRoutine value.kind).call [value.code] ++ ";")

/-- A block in braces, one level deeper. -/
def block (place : String) : Gen Unit := do
  let _ ← Read.expect .lbrace (.unopenedBlock place)
  write fun o => { o with indent := o.indent + 1 }
  repeatUntil [.rbrace, .eof] inner ((← Read.remaining) + 1)
  write fun o => { o with indent := o.indent - 1 }
  let _ ← Read.expect .rbrace (.unclosedBlock place)

/-- A condition in parentheses after a word. -/
def condition (word : Token) : Gen String := do
  let _ ← Read.expect .lparen (.missingArguments word.value)
  let test ← expr
  let _ ← Read.expect .rparen .unclosedCondition
  return test.code

/-- A C construct with a condition and a block. -/
def guarded (head place : String) : Gen Unit := do
  let word ← Read.advance
  let test ← condition expr word
  emit (head ++ " (" ++ test ++ ") \x7b")
  block inner place
  emit "\x7d"

def whileStatement : Gen Unit :=
  guarded expr inner "while" "while body"

def branch (head : String) : Gen Unit :=
  guarded expr inner head "if body"

def alternatives : Nat → Gen Unit
  | 0 => pure ()
  | n + 1 => do
    if ← Read.elseFollows then
      let _ ← Read.advance
      if ← Read.check (.keyword .ifK) then
        branch expr inner "else if"
        alternatives n
      else
        emit "else \x7b"
        block inner "else body"
        emit "\x7d"

def ifStatement : Gen Unit := do
  branch expr inner "if"
  alternatives expr inner ((← Read.remaining) + 1)

/-- The C header of a user's function. Parameters carry no type, so all of them
are texts. -/
def functionHeader (name : String) (params : List String) : String :=
  "int " ++ name ++ "(" ++ Text.joinWith ", " (params.map ("char* " ++ ·)) ++ ")"

/-- A function. Its body goes to a buffer of its own. -/
def functionDeclaration : Gen Unit := do
  let word ← Read.advance
  let name ← Read.expect .identifier (.missingFunction word.value)
  let _ ← Read.expect .lparen .missingParameters
  let params ← Read.parameters true ((← Read.remaining) + 1)
  let _ ← Read.expect .rparen .unclosedParameters
  write fun o => { o with names := o.names.push name.value }
  Read.note (.function name.value params)
  let outer := (← get).output.indent
  write (·.openFunction (functionHeader name.value params))
  block inner "function body"
  write (·.closeFunction outer)

/-- A return, with or without a value. -/
def returnStatement : Gen Unit := do
  let _ ← Read.advance
  let value ← expr
  if value.code = "" then emit "return;" else emit ("return " ++ value.code ++ ";")

def writeFileStatement : Gen Unit := do
  let word ← Read.advance
  let _ ← Read.expect .lparen (.missingArguments word.value)
  let name ← expr
  let _ ← Read.expect .comma .unseparatedArguments
  let content ← expr
  let _ ← Read.expect .rparen (.unclosedWord word.value)
  emit (Support.writeFile.call [name.code, content.code] ++ ";")

/-- A file is read and the result dropped. -/
def readFileStatement (builtin : Gen Fragment) : Gen Unit := do
  let call ← builtin
  emit (call.code ++ ";")

/-- An assignment, a call, or a name that does nothing. An assignment leaves
the kind of the variable as it was declared. -/
def nameStatement (arguments : Gen String) : Gen Unit := do
  let tok ← Read.advance
  if ← Read.accept .equal then
    let value ← expr
    emit (tok.value ++ " = " ++ value.code ++ ";")
  else if ← Read.accept .lparen then
    let args ← arguments
    emit (tok.value ++ "(" ++ args ++ ");")
  else
    Read.remark .idleName tok

end

/-- The statement that a kind of token starts. -/
def statementFor? (depth : Nat) (inner : Gen Unit) : TokenKind → Option (Gen Unit)
  | .keyword .varK => some (varDeclaration (expression depth))
  | .keyword .printK => some (printStatement (expression depth))
  | .keyword .whileK => some (whileStatement (expression depth) inner)
  | .keyword .ifK => some (ifStatement (expression depth) inner)
  | .keyword .functionK => some (functionDeclaration inner)
  | .keyword .returnK => some (returnStatement (expression depth))
  | .keyword .writeFileK => some (writeFileStatement (expression depth))
  | .builtin .readFile => some (readFileStatement (builtin depth))
  | .identifier => some (nameStatement (expression depth) (callArguments depth))
  | _ => none

/-- One statement whose inner statements are generated by `inner`. Line breaks
before it are passed over; at a closing brace or the end of input there is
nothing to do. -/
def statementOver (depth : Nat) (inner : Gen Unit) : Gen Unit := do
  Read.skipLines
  let tok ← Read.current
  if tok.kind = .rbrace ∨ tok.kind = .eof then return ()
  match statementFor? depth inner tok.kind with
  | some handler =>
    Read.note (.statement tok)
    handler
  | none => Read.skip

/-- A statement nested less than `depth` levels deep. -/
def statement : Nat → Gen Unit
  | 0 => Read.fail .tooDeep
  | depth + 1 => statementOver (depth + 1) (statement depth)

/-- One step at the top level: a closing brace has nothing to close there. -/
def topLevel (depth : Nat) : Gen Unit := do
  if ← Read.check .rbrace then
    Read.remark .strayBrace (← Read.advance)
  else
    statement depth

/-- All statements up to the end of input. -/
def run (depth : Nat) : Gen Unit := do
  repeatUntil [.eof] (topLevel depth) ((← Read.remaining) + 1)

end StageZero.Gen
