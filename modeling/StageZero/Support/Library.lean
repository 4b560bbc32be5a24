import StageZero.Support.Routine
import StageZero.Token.Kind

/-!
# The support library

The routines that every compiled program carries, and the text they make up.
The generator names them and never writes their definitions itself.
-/

namespace StageZero.Support

def concat : Routine where
  purpose := "String concatenation helper"
  name := "__wear_concat"
  params := [(.text, "a"), (.text, "b")]
  result := some .text
  body :=
    [.plain "size_t len_a = strlen(a);",
      .plain "size_t len_b = strlen(b);",
      .plain "char* result = (char*)malloc(len_a + len_b + 1);",
      .opens "if (result == NULL)",
      .plain "fprintf(stderr, \"Error: Memory allocation failed\\n\");",
      .plain "exit(1);",
      .closes,
      .plain "strcpy(result, a);",
      .plain "strcat(result, b);",
      .plain "return result;"]

def intToStr : Routine where
  purpose := "Integer to string helper"
  name := "__wear_int_to_str"
  params := [(.integer, "value")]
  result := some .text
  body :=
    [.plain "char* buffer = (char*)malloc(32);",
      .opens "if (buffer == NULL)",
      .plain "fprintf(stderr, \"Error: Memory allocation failed\\n\");",
      .plain "exit(1);",
      .closes,
      .plain "sprintf(buffer, \"%d\", value);",
      .plain "return buffer;"]

def concatStrInt : Routine where
  purpose := "String + int concatenation"
  name := "__wear_concat_str_int"
  params := [(.text, "s"), (.integer, "n")]
  result := some .text
  body :=
    [.plain "char* num_str = __wear_int_to_str(n);",
      .plain "char* result = __wear_concat(s, num_str);",
      .plain "free(num_str);",
      .plain "return result;"]

def concatIntStr : Routine where
  purpose := "Int + string concatenation"
  name := "__wear_concat_int_str"
  params := [(.integer, "n"), (.text, "s")]
  result := some .text
  body :=
    [.plain "char* num_str = __wear_int_to_str(n);",
      .plain "char* result = __wear_concat(num_str, s);",
      .plain "free(num_str);",
      .plain "return result;"]

def readFile : Routine where
  purpose := "Read file contents"
  name := "__wear_read_file"
  params := [(.text, "filename")]
  result := some .text
  body :=
    [.plain "FILE* file = fopen(filename, \"rb\");",
      .opens "if (file == NULL)",
      .plain "fprintf(stderr, \"Error: Cannot open file '%s'\\n\", filename);",
      .plain "return (char*)calloc(1, 1);  /* Return empty string */",
      .closes,
      .plain "",
      .plain "fseek(file, 0, SEEK_END);",
      .plain "long length = ftell(file);",
      .plain "fseek(file, 0, SEEK_SET);",
      .plain "",
      .plain "char* content = (char*)malloc(length + 1);",
      .opens "if (content == NULL)",
      .plain "fprintf(stderr, \"Error: Memory allocation failed\\n\");",
      .plain "fclose(file);",
      .plain "exit(1);",
      .closes,
      .plain "",
      .plain "fread(content, 1, length, file);",
      .plain "content[length] = '\\0';",
      .plain "fclose(file);",
      .plain "",
      .plain "return content;"]

def writeFile : Routine where
  purpose := "Write file contents"
  name := "__wear_write_file"
  params := [(.text, "filename"), (.text, "content")]
  result := none
  body :=
    [.plain "FILE* file = fopen(filename, \"wb\");",
      .opens "if (file == NULL)",
      .plain "fprintf(stderr, \"Error: Cannot write to file '%s'\\n\", filename);",
      .plain "return;",
      .closes,
      .plain "",
      .plain "fwrite(content, 1, strlen(content), file);",
      .plain "fclose(file);"]

/-- Prints a text and a line break. -/
def printStr : Routine where
  purpose := "Print string"
  name := "__wear_print_str"
  params := [(.text, "s")]
  result := none
  body :=
    [.plain "printf(\"%s\\n\", s);"]

/-- Prints an integer and a line break. -/
def printInt : Routine where
  purpose := "Print integer"
  name := "__wear_print_int"
  params := [(.integer, "n")]
  result := none
  body :=
    [.plain "printf(\"%d\\n\", n);"]

def streq : Routine where
  purpose := "String comparison (returns 1 if equal, 0 otherwise)"
  name := "__wear_streq"
  params := [(.text, "a"), (.text, "b")]
  result := some .integer
  body :=
    [.plain "return strcmp(a, b) == 0 ? 1 : 0;"]

def strlen : Routine where
  purpose := "String length"
  name := "__wear_strlen"
  params := [(.text, "s")]
  result := some .integer
  body :=
    [.plain "return (int)strlen(s);"]

/-- Cuts one character out of a text. -/
def charAt : Routine where
  purpose := "Character at index (returns 1-char string)"
  name := "__wear_char_at"
  params := [(.text, "s"), (.integer, "index")]
  result := some .text
  body :=
    [.plain "char* result = (char*)malloc(2);",
      .opens "if (result == NULL)",
      .plain "fprintf(stderr, \"Error: Memory allocation failed\\n\");",
      .plain "exit(1);",
      .closes,
      .opens "if (index >= 0 && index < (int)strlen(s))",
      .plain "result[0] = s[index];",
      .plain "result[1] = '\\0';",
      .otherwise,
      .plain "result[0] = '\\0';",
      .closes,
      .plain "return result;"]

def isQuote : Routine where
  purpose := "Check if character is a quote (returns 1 if quote, 0 otherwise)"
  name := "__wear_is_quote"
  params := [(.text, "s")]
  result := some .integer
  body :=
    [.plain "if (s == NULL || s[0] == '\\0') return 0;",
      .plain "return s[0] == '\"' ? 1 : 0;"]

def quoteChar : Routine where
  purpose := "Get quote character as a string"
  name := "__wear_quote_char"
  params := []
  result := some .text
  body :=
    [.plain "char* result = (char*)malloc(2);",
      .plain "result[0] = '\"';",
      .plain "result[1] = '\\0';",
      .plain "return result;"]

def newlineChar : Routine where
  purpose := "Get newline character as a string"
  name := "__wear_newline_char"
  params := []
  result := some .text
  body :=
    [.plain "char* result = (char*)malloc(2);",
      .plain "result[0] = '\\n';",
      .plain "result[1] = '\\0';",
      .plain "return result;"]

def isNewline : Routine where
  purpose := "Check if character is a newline (returns 1 if newline, 0 otherwise)"
  name := "__wear_is_newline"
  params := [(.text, "s")]
  result := some .integer
  body :=
    [.plain "if (s == NULL || s[0] == '\\0') return 0;",
      .plain "return (s[0] == '\\n' || s[0] == '\\r') ? 1 : 0;"]

/-- All routines, in the order in which they are written. -/
def routines : List Routine :=
  [concat, intToStr, concatStrInt, concatIntStr, readFile, writeFile, printStr, printInt,
    streq, strlen, charAt, isQuote, quoteChar, newlineChar, isNewline]

/-- The library as C text: a banner, the headers it needs, the routines. -/
def libraryText : String :=
  "\n" ++
    "/* ============================================================\n" ++
    " * WeaR Lang Runtime Library\n" ++
    " * ============================================================ */\n\n" ++
    "#include <stdio.h>\n#include <stdlib.h>\n#include <string.h>\n\n" ++
    Text.concat (routines.map Routine.definition) ++
    "/* ============================================================ */\n\n"

end StageZero.Support

namespace StageZero

def Builtin.routine : Builtin → Routine
  | .readFile => Support.readFile
  | .streq => Support.streq
  | .strlen => Support.strlen
  | .charAt => Support.charAt
  | .isQuote => Support.isQuote
  | .quoteChar => Support.quoteChar
  | .isNewline => Support.isNewline
  | .newlineChar => Support.newlineChar

end StageZero
