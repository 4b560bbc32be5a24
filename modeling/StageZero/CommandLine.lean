import StageZero.Text
import StageZero.Text.Decimal
import StageZero.Text.Quoted

/-!
# The command line

Arguments are first told apart one by one: options, words that look like
options and are none, the separator, and plain arguments. An option may be
spelled by any beginning of its long name that fits no other; short options may
be written together, and a value may be attached to the option it belongs to.
Then the arguments are taken in order. The first plain one is the input file,
and whatever finds no use is refused in the end, all of it together.
-/

namespace StageZero.CommandLine

/-- What can be set on the command line. -/
inductive Switch where
  | help
  | output
  | compile
  | run
  | cc
  | debug
  deriving DecidableEq

/-- Every spelling of an option, in the order in which they are documented. -/
def spellings : List (String × Switch) :=
  [("-h", .help), ("--help", .help), ("-o", .output), ("--output", .output),
    ("--compile", .compile), ("--run", .run), ("--cc", .cc), ("-d", .debug), ("--debug", .debug)]

namespace Switch

def takesValue : Switch → Bool
  | .output => true
  | .cc => true
  | _ => false

def label (s : Switch) : String :=
  Text.joinWith "/" ((spellings.filter fun row => row.2 = s).map (·.1))

end Switch

/-- One argument, told apart. -/
inductive Word where
  /-- An argument that is no option. -/
  | plain (text : String)
  /-- The double dash, behind which everything is plain. -/
  | separator
  /-- An option, whether its short spelling was used, and the text that is
  written together with it. -/
  | option (switch : Switch) (short : Bool) (attached : Option (List Char))
  /-- Something written like an option that is none. -/
  | stranger (text : String)
  deriving DecidableEq

/-- A text cut at its first equals sign. -/
def splitEquals (text : List Char) : List Char × Option (List Char) :=
  match text.dropWhile (· ≠ '=') with
  | [] => (text, none)
  | _ :: value => (text.takeWhile (· ≠ '='), some value)

/-- What is written together with a short option. An equals sign right behind
the option only sets the text off. -/
def behindShort : List Char → Option (List Char)
  | [] => none
  | '=' :: value => some value
  | text => some text

/-- Whether a text is a negative number: digits, or digits around a point with
at least one behind it. A line break at the very end is overlooked. -/
def isNegativeNumber (text : List Char) : Bool :=
  match text with
  | '-' :: rest =>
    let body := if rest.getLast? = some '\n' then rest.dropLast else rest
    let whole := body.takeWhile Text.isDecimal
    match body.dropWhile Text.isDecimal with
    | [] => !whole.isEmpty
    | '.' :: places => !places.isEmpty && places.all Text.isDecimal
    | _ => false
  | _ => false

def startsWith (text beginning : List Char) : Bool :=
  text.take beginning.length == beginning

/-- The options that an argument written like an option can mean. -/
def candidates (text : List Char) : List (String × Word) :=
  match text with
  | '-' :: '-' :: _ =>
    let (name, attached) := splitEquals text
    (spellings.filter fun row => startsWith row.1.toList name).map fun row =>
      (row.1, .option row.2 false attached)
  | dash :: letter :: rest =>
    (spellings.filter fun row => row.1.toList = [dash, letter]).map fun row =>
      (row.1, .option row.2 true (behindShort rest))
  | _ => []

/-- Tells one argument apart. An argument that could be several options is
refused with the options it could be. -/
def classify (arg : String) : Except String Word :=
  let text := arg.toList
  if text.head? ≠ some '-' ∨ text.length = 1 then .ok (.plain arg)
  else
    match candidates text with
    | [(_, word)] => .ok word
    | _ :: _ :: _ =>
      .error ("ambiguous option: " ++ arg ++ " could match " ++
        Text.joinWith ", " ((candidates text).map (·.1)))
    | [] =>
      if isNegativeNumber text || text.contains ' ' then .ok (.plain arg)
      else .ok (.stranger arg)

def classifyAll : List String → Except String (List Word)
  | [] => .ok []
  | arg :: rest =>
    if arg = "--" then .ok (.separator :: rest.map .plain)
    else do
      let word ← classify arg
      let words ← classifyAll rest
      return word :: words

/-- The settings that one argument makes. -/
structure Settings where
  values : List (Switch × String)
  /-- The value is the next argument. -/
  usesNext : Bool := false

/-- The complaint about an option without its value. -/
def missingValue (s : Switch) : String :=
  "argument " ++ s.label ++ ": expected one argument"

/-- The complaint about an option with a text it cannot use. -/
def unwantedText (s : Switch) (text : List Char) : String :=
  "argument " ++ s.label ++ ": ignored explicit argument " ++ Text.quoted (String.ofList text)

/-- The settings of an option with nothing written behind it. -/
def settleBare (next : Option String) (s : Switch) : Except String Settings :=
  if s.takesValue then
    match next with
    | some value => .ok { values := [(s, value)], usesNext := true }
    | none => .error (missingValue s)
  else .ok { values := [(s, "")] }

/-- The settings of an option with a text that can only be its value. -/
def settleValue (s : Switch) (text : List Char) : Except String Settings :=
  if s.takesValue then .ok { values := [(s, String.ofList text)] }
  else .error (unwantedText s text)

/-- The settings of a short option with a text: its value, or the letters of
further short options. From the second letter on an equals sign is a character
like any other. -/
def settleCluster (next : Option String) (s : Switch) : List Char → Except String Settings
  | [] => settleValue s []
  | letter :: rest =>
    if s.takesValue then settleValue s (letter :: rest)
    else
      match spellings.lookup (String.ofList ['-', letter]) with
      | none => .error (unwantedText s (letter :: rest))
      | some following => do
        let settings ←
          if rest.isEmpty then settleBare next following
          else settleCluster next following rest
        return { settings with values := (s, "") :: settings.values }

/-- The settings of an option, by its spelling and the text written together
with it. -/
def settle (next : Option String) (s : Switch) (short : Bool) :
    Option (List Char) → Except String Settings
  | none => settleBare next s
  | some text => if short then settleCluster next s text else settleValue s text

/-- What the command line says. The C file and the C compiler are none if a
double dash was given in their place. -/
structure Options where
  input : Option String := none
  output : Option String := some "output.c"
  compile : Bool := false
  run : Bool := false
  cc : Option String := some "gcc"
  debug : Bool := false
  deriving DecidableEq

/-- The outcome of reading a command line. -/
inductive Parsed where
  | options (o : Options)
  | help
  | refused (message : String)
  deriving DecidableEq

/-- The value that a text gives an option. The double dash is taken away
wherever it stands, and leaves nothing. -/
def valueOf (text : String) : Option String :=
  if text = "--" then none else some text

/-- One setting; none when help was asked for. -/
def Options.set (o : Options) (setting : Switch × String) : Option Options :=
  match setting.1 with
  | .help => none
  | .output => some { o with output := valueOf setting.2 }
  | .compile => some { o with compile := true }
  | .run => some { o with run := true }
  | .cc => some { o with cc := valueOf setting.2 }
  | .debug => some { o with debug := true }

/-- The arguments taken so far. -/
structure Progress where
  options : Options := {}
  /-- Whether the place of the input file has been filled or passed over. -/
  inputTaken : Bool := false
  unused : List String := []

namespace Progress

/-- Fills the place of the input file. -/
def fill (p : Progress) (input : Option String) : Progress :=
  { p with options := { p.options with input := input }, inputTaken := true }

/-- Keeps an argument that finds no use. -/
def leave (p : Progress) (text : String) : Progress :=
  { p with unused := p.unused ++ [text] }

/-- The outcome when all arguments are taken. -/
def finish (p : Progress) : Parsed :=
  if p.unused.isEmpty then .options p.options
  else .refused ("unrecognized arguments: " ++ Text.joinWith " " p.unused)

end Progress

/-- Takes the arguments in order. A separator next to the input file goes with
it. -/
def take (p : Progress) : List Word → Parsed
  | [] => p.finish
  | .plain text :: rest =>
    if p.inputTaken then take (p.leave text) rest
    else
      match rest with
      | .separator :: rest => take (p.fill (some text)) rest
      | rest => take (p.fill (some text)) rest
  | .separator :: rest =>
    if p.inputTaken then take (p.leave "--") rest
    else
      match rest with
      | .plain text :: rest => take (p.fill (some text)) rest
      | rest => take (p.fill none) rest
  | .stranger text :: rest => take (p.leave text) rest
  | .option s short attached :: rest =>
    let next := match rest with
      | .plain value :: _ => some value
      | _ => none
    match settle next s short attached with
    | .error message => .refused message
    | .ok settings =>
      match settings.values.foldlM Options.set p.options with
      | none => .help
      | some options =>
        let q := { p with options := options }
        match settings.usesNext, rest with
        | true, _ :: rest => take q rest
        | _, rest => take q rest

def parse (args : List String) : Parsed :=
  match classifyAll args with
  | .error message => .refused message
  | .ok words => take {} words

def usage : String :=
  "usage: wearc [-h] [-o OUTPUT] [--compile] [--run] [--cc CC] [-d] [input]\n"

def helpText : String :=
  usage ++
    "\n" ++
    "WeaR Lang Stage-0 Compiler (Transpiler to C)\n" ++
    "\n" ++
    "positional arguments:\n" ++
    "  input                 Input .wr file (omit for interactive mode)\n" ++
    "\n" ++
    "options:\n" ++
    "  -h, --help            show this help message and exit\n" ++
    "  -o OUTPUT, --output OUTPUT\n" ++
    "                        Output C file (default: output.c)\n" ++
    "  --compile             Compile generated C code with the C compiler\n" ++
    "  --run                 Compile and run the program\n" ++
    "  --cc CC               C compiler to invoke (default: gcc)\n" ++
    "  -d, --debug           Print every compilation phase\n"

/-- What is said about a command line that is refused. -/
def refusal (message : String) : String :=
  usage ++ "wearc: error: " ++ message ++ "\n"

end StageZero.CommandLine
