import StageZero.Generator.Reading

/-!
# Expressions

An expression is a list of parts: literals, names, calls, builtins, operators
and groups in parentheses. It ends at the first token that can start none of
these. What a group or an argument contains is again an expression, one level
deeper, and depth is what the recursion is on: each step below takes the reader
of the expressions inside it as an argument, and `expression` ties the knot
until the depth runs out.

The loops carry a count as well. It is bookkeeping, not a bound: every round
but the first look reads a token, and the count exceeds the tokens that are
left.
-/

namespace StageZero.Read

variable (types : TypeTable) (inner : Read Fragment)

/-- The arguments of a builtin, as many as its routine takes. -/
def builtinArguments (first : Bool) : Nat → Read (List String)
  | 0 => pure []
  | n + 1 => do
    unless first do
      let _ ← expect .comma .unseparatedArguments
    let arg ← inner
    let rest ← builtinArguments false n
    return arg.code :: rest

def builtin : Read Fragment := do
  let tok ← advance
  match tok.kind with
  | .builtin word =>
    let _ ← expect .lparen (.missingArguments tok.value)
    let args ← builtinArguments inner true word.routine.arity
    let _ ← expect .rparen (.unclosedWord tok.value)
    return .call word.routine args
  | kind => throw (.notBuiltin kind)

/-- The arguments of a call up to the closing parenthesis. -/
def argumentList (first : Bool) : Nat → Read (List String)
  | 0 => pure []
  | n + 1 => do
    let tok ← current
    if tok.kind = .rparen ∨ tok.kind = .eof then return []
    unless first do
      let _ ← expect .comma .unseparatedArguments
    let arg ← inner
    let rest ← argumentList false n
    return arg.code :: rest

/-- The arguments of a call, behind its opening parenthesis. -/
def callArguments : Read String := do
  let args ← argumentList inner true ((← remaining) + 2)
  let _ ← expect .rparen .unclosedArguments
  return Text.joinWith ", " args

/-- A name, or the call of a user's function, which gives an integer. -/
def reference : Read Fragment := do
  let tok ← advance
  if ← accept .lparen then
    let args ← callArguments inner
    return ⟨tok.value ++ "(" ++ args ++ ")", .integer⟩
  else
    return ⟨tok.value, types.lookup tok.value⟩

/-- A group in parentheses. It has the kind of what it contains. -/
def group : Read Fragment := do
  let _ ← advance
  let e ← inner
  let _ ← expect .rparen .unclosedGroup
  return ⟨"(" ++ e.code ++ ")", e.kind⟩

/-- The next part, if the token under the cursor starts one. -/
def part? : Read (Option Fragment) := do
  let tok ← current
  match tok.kind with
  | .string =>
    let _ ← advance
    return some (.literal tok.value)
  | .integer =>
    let _ ← advance
    return some ⟨tok.value, .integer⟩
  | .builtin _ => return some (← builtin inner)
  | .identifier => return some (← reference types inner)
  | .operator o =>
    let _ ← advance
    return some (.sign o)
  | .lparen => return some (← group inner)
  | _ => return none

/-- The parts up to the end of the expression. -/
def parts : Nat → Read (List Fragment)
  | 0 => pure []
  | n + 1 => do
    match ← part? types inner with
    | none => return []
    | some p => return p :: (← parts n)

/-- An expression whose inner expressions are read by `inner`. -/
def expressionOver : Read Fragment := do
  let ps ← parts types inner ((← remaining) + 1)
  let result := Fragment.ofParts ps
  note (.expression result)
  return result

end StageZero.Read

namespace StageZero

/-- An expression nested less than `depth` levels deep. -/
def Read.expression (types : TypeTable) : Nat → Read Fragment
  | 0 => Read.fail .tooDeep
  | depth + 1 => Read.expressionOver types (Read.expression types depth)

end StageZero
