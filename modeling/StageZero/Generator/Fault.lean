/-!
# Faults and remarks

A fault stops the generator: a token that had to be there is missing, or blocks
are nested too deeply. A remark is about something the generator passes over.
Each is a cause; the wording is in one place.
-/

namespace StageZero

/-- Why the generator stops. -/
inductive Fault where
  | unclosedGroup
  /-- A word that takes arguments or a condition has none. -/
  | missingArguments (word : String)
  | unseparatedArguments
  /-- The arguments of a word are not closed. -/
  | unclosedWord (word : String)
  /-- The arguments of a user's function are not closed. -/
  | unclosedArguments
  | missingVariable
  | missingValue
  | unopenedBlock (place : String)
  | unclosedBlock (place : String)
  | unclosedCondition
  | missingFunction (word : String)
  | missingParameters
  | unseparatedParameters
  | missingParameter
  | unclosedParameters
  /-- Blocks and groups are nested beyond the limit. -/
  | tooDeep
  /-- A fault in the caller's own words. -/
  | stated (message : String)
  deriving DecidableEq

namespace Fault

/-- All faults share one code. -/
def code : String := "SYN001"

def message : Fault → String
  | .unclosedGroup => "Expected ')' to close '('"
  | .missingArguments word => "Expected '(' after '" ++ word ++ "'"
  | .unseparatedArguments => "Expected ',' between arguments"
  | .unclosedWord word => "Expected ')' to close '" ++ word ++ "' call"
  | .unclosedArguments => "Expected ')' after arguments"
  | .missingVariable => "Expected variable name after 'var'"
  | .missingValue => "Expected '=' after variable name"
  | .unopenedBlock place => "Expected '\x7b' to start " ++ place
  | .unclosedBlock place => "Expected '\x7d' to end " ++ place
  | .unclosedCondition => "Expected ')' after condition"
  | .missingFunction word => "Expected function name after '" ++ word ++ "'"
  | .missingParameters => "Expected '(' after function name"
  | .unseparatedParameters => "Expected ',' between parameters"
  | .missingParameter => "Expected parameter name"
  | .unclosedParameters => "Expected ')' after parameters"
  | .tooDeep => "Blocks nested too deeply"
  | .stated message => message

end Fault

/-- What the generator passes over and mentions. -/
inductive Remark where
  /-- A character that belongs to no token. -/
  | illegalCharacter
  | strayBrace
  | idleName
  deriving DecidableEq

namespace Remark

/-- The code of a remark. -/
def code : Remark → String
  | .illegalCharacter => "LEX001"
  | .strayBrace => "SYN005"
  | .idleName => "SYN006"

def message : Remark → String
  | .illegalCharacter => "Illegal character skipped"
  | .strayBrace => "Unmatched '\x7d' skipped"
  | .idleName => "Identifier used as a statement has no effect"

end Remark

end StageZero
