/-!
# Token kinds

The alphabet the generator reads. A kind is more than a label: the words that
stand for a routine of the support library form one family, the operators that
are copied into C form another, so that a case distinction on a token asks the
question the grammar asks and no side table has to be consulted.

Every kind has one printed name. `TokenKind.all` lists the kinds in the order
in which they are documented, and is what a name is looked up in.
-/

namespace StageZero

/-- Words that open a statement or continue one. None of them can stand inside
an expression. -/
inductive Keyword where
  | varK
  | printK
  | whileK
  | ifK
  | elseK
  | functionK
  | returnK
  | writeFileK
  deriving DecidableEq

/-- Words that call a routine of the support library and have a value. -/
inductive Builtin where
  | readFile
  | streq
  | strlen
  | charAt
  | isQuote
  | quoteChar
  | isNewline
  | newlineChar
  deriving DecidableEq

/-- Operators that are written in C as they are in the source. -/
inductive Operator where
  | plus
  | minus
  | star
  | slash
  | less
  | greater
  | lessEqual
  | greaterEqual
  | equalEqual
  | notEqual
  deriving DecidableEq

/-- What a token is. -/
inductive TokenKind where
  | keyword (word : Keyword)
  | builtin (word : Builtin)
  | integer
  | string
  | identifier
  | operator (sign : Operator)
  | equal
  | lparen
  | rparen
  | lbrace
  | rbrace
  | lbracket
  | rbracket
  | semicolon
  | comma
  | newline
  | eof
  | unknown
  deriving DecidableEq

/-- The printed name of a keyword's kind. -/
def Keyword.name : Keyword → String
  | .varK => "VAR"
  | .printK => "PRINT"
  | .whileK => "WHILE"
  | .ifK => "IF"
  | .elseK => "ELSE"
  | .functionK => "FUNCTION"
  | .returnK => "RETURN"
  | .writeFileK => "WRITE_FILE"

/-- The printed name of a builtin's kind. -/
def Builtin.name : Builtin → String
  | .readFile => "READ_FILE"
  | .streq => "STREQ"
  | .strlen => "STRLEN"
  | .charAt => "CHAR_AT"
  | .isQuote => "IS_QUOTE"
  | .quoteChar => "QUOTE_CHAR"
  | .isNewline => "IS_NEWLINE"
  | .newlineChar => "NEWLINE_CHAR"

/-- All builtins, in the order in which they are documented. -/
def Builtin.all : List Builtin :=
  [.readFile, .streq, .strlen, .charAt, .isQuote, .quoteChar, .isNewline, .newlineChar]

/-- The printed name of an operator's kind. -/
def Operator.name : Operator → String
  | .plus => "PLUS"
  | .minus => "MINUS"
  | .star => "STAR"
  | .slash => "SLASH"
  | .less => "LESS"
  | .greater => "GREATER"
  | .lessEqual => "LESS_EQUAL"
  | .greaterEqual => "GREATER_EQUAL"
  | .equalEqual => "EQUAL_EQUAL"
  | .notEqual => "NOT_EQUAL"

/-- The text of an operator, the same in the source and in C. -/
def Operator.text : Operator → String
  | .plus => "+"
  | .minus => "-"
  | .star => "*"
  | .slash => "/"
  | .less => "<"
  | .greater => ">"
  | .lessEqual => "<="
  | .greaterEqual => ">="
  | .equalEqual => "=="
  | .notEqual => "!="

/-- All operators, in the order in which they are documented. -/
def Operator.all : List Operator :=
  [.plus, .minus, .star, .slash, .less, .greater, .lessEqual, .greaterEqual, .equalEqual,
    .notEqual]

namespace TokenKind

def name : TokenKind → String
  | .keyword k => k.name
  | .builtin b => b.name
  | .integer => "INTEGER"
  | .string => "STRING"
  | .identifier => "IDENTIFIER"
  | .operator o => o.name
  | .equal => "EQUAL"
  | .lparen => "LPAREN"
  | .rparen => "RPAREN"
  | .lbrace => "LBRACE"
  | .rbrace => "RBRACE"
  | .lbracket => "LBRACKET"
  | .rbracket => "RBRACKET"
  | .semicolon => "SEMICOLON"
  | .comma => "COMMA"
  | .newline => "NEWLINE"
  | .eof => "EOF"
  | .unknown => "UNKNOWN"

/-- All kinds: keywords and builtins, literals, operators, delimiters, and the
two that stand for no construct of the language. -/
def all : List TokenKind :=
  [.keyword .varK, .keyword .printK, .keyword .whileK, .keyword .ifK, .keyword .elseK,
    .keyword .functionK, .keyword .returnK, .builtin .readFile, .keyword .writeFileK,
    .builtin .streq, .builtin .strlen, .builtin .charAt, .builtin .isQuote, .builtin .quoteChar,
    .builtin .isNewline, .builtin .newlineChar,
    .integer, .string, .identifier,
    .operator .plus, .operator .minus, .operator .star, .operator .slash, .equal,
    .operator .less, .operator .greater, .operator .lessEqual, .operator .greaterEqual,
    .operator .equalEqual, .operator .notEqual,
    .lparen, .rparen, .lbrace, .rbrace, .lbracket, .rbracket, .semicolon, .comma, .newline,
    .eof, .unknown]

/-- The kind with a given printed name. -/
def ofName? (text : String) : Option TokenKind :=
  all.find? fun k => k.name == text

/-- The kinds at which every expression ends, by name. -/
def expressionStops : List TokenKind :=
  [.comma, .eof, .lbrace, .newline, .rbrace, .rparen, .semicolon]

theorem mem_all (k : TokenKind) : k ∈ all := by
  cases k with
  | keyword w => cases w <;> decide
  | builtin w => cases w <;> decide
  | operator w => cases w <;> decide
  | _ => decide

end TokenKind

end StageZero
