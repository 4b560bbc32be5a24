import StageZero.Generator.State

/-!
# The C document

A finished program is the support library, the user's functions in the order in
which they ended, and a main function around the main body.
-/

namespace StageZero

def banner : String :=
  "/* Generated by WeaR Lang Stage-0 Compiler */\n"

def preamble : String :=
  banner ++ Support.libraryText

namespace Output

def mainText (o : Output) : String :=
  Text.concat o.main.toList

def functionsText (o : Output) : String :=
  Text.concat o.functions.toList

def program (o : Output) : String :=
  let functions :=
    if o.functions.isEmpty then "" else "// User-defined functions\n" ++ o.functionsText
  functions ++ "int main(int argc, char* argv[]) \x7b\n" ++ o.mainText ++
    "\n    return 0;\n" ++ "\x7d\n"

def document (o : Output) : String :=
  preamble ++ o.program

end Output

end StageZero
