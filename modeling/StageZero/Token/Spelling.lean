import StageZero.Token.Kind

/-!
# Spellings

The two spelling tables of the language. A keyword may have several spellings,
which all scan to the same kind; a symbol has exactly one.
-/

namespace StageZero

/-- Every keyword spelling with its kind: the Indonesian words, the English
words, and the character helpers, which have one spelling for both. -/
def keywords : List (String × TokenKind) :=
  [("var", .keyword .varK),
    ("cetak", .keyword .printK),
    ("selama", .keyword .whileK),
    ("jika", .keyword .ifK),
    ("lainnya", .keyword .elseK),
    ("fungsi", .keyword .functionK),
    ("kembalikan", .keyword .returnK),
    ("baca_file", .builtin .readFile),
    ("tulis_file", .keyword .writeFileK),
    ("sama", .builtin .streq),
    ("panjang", .builtin .strlen),
    ("print", .keyword .printK),
    ("while", .keyword .whileK),
    ("if", .keyword .ifK),
    ("else", .keyword .elseK),
    ("function", .keyword .functionK),
    ("return", .keyword .returnK),
    ("read_file", .builtin .readFile),
    ("write_file", .keyword .writeFileK),
    ("streq", .builtin .streq),
    ("strlen", .builtin .strlen),
    ("char_at", .builtin .charAt),
    ("is_quote", .builtin .isQuote),
    ("quote_char", .builtin .quoteChar),
    ("is_newline", .builtin .isNewline),
    ("newline_char", .builtin .newlineChar)]

/-- The kind of a word: a keyword's own kind, and an identifier otherwise. -/
def wordKind (word : String) : TokenKind :=
  (keywords.lookup word).getD .identifier

/-- The spellings of one kind, in table order. -/
def spellingsOf (kind : TokenKind) : List String :=
  (keywords.filter fun row => row.2 = kind).map (·.1)

/-- The keyword table grouped by kind. A kind stands where its first spelling
stands. -/
def spellings : List (TokenKind × List String) :=
  (keywords.map (·.2)).eraseDups.map fun kind => (kind, spellingsOf kind)

/-- Every symbol with its kind, the two-character ones first. -/
def symbols : List (String × TokenKind) :=
  [("==", .operator .equalEqual),
    ("!=", .operator .notEqual),
    ("<=", .operator .lessEqual),
    (">=", .operator .greaterEqual),
    ("+", .operator .plus),
    ("-", .operator .minus),
    ("*", .operator .star),
    ("/", .operator .slash),
    ("=", .equal),
    ("<", .operator .less),
    (">", .operator .greater),
    ("(", .lparen),
    (")", .rparen),
    ("\x7b", .lbrace),
    ("\x7d", .rbrace),
    ("[", .lbracket),
    ("]", .rbracket),
    (";", .semicolon),
    (",", .comma)]

/-- The kind of a symbol spelled by the given characters. -/
def symbolKind? (text : List Char) : Option TokenKind :=
  symbols.lookup (String.ofList text)

end StageZero
