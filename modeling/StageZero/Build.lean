import StageZero.CommandLine
import StageZero.Compilation
import StageZero.Disk
import StageZero.Text.Utf8

/-!
# Building

A build reads a source file, compiles it, writes the C file, and on request has
it compiled and run by external commands. The outside world is a `Host`: what
can be read, what can be written, and how each command would end, or why it
would not even start. The build is a function of the host that says what it
prints, which file it writes and which commands it starts, in what order;
nothing happens in it.
-/

namespace StageZero

/-- The world a build runs in. What can keep a command from being started, other
than that there is no such program, is for the host to say. -/
structure Host (Refusal : Type := Empty) where
  /-- The contents of a file, if it can be opened. -/
  read : String → Option ByteArray
  /-- Whether a file can be written. -/
  writable : String → Bool
  /-- The exit status of a command, if its program exists. -/
  status : List String → Option Int
  /-- Why a command is not started, whether its program exists or not. -/
  refusal : List String → Option Refusal := fun _ => none
  /-- The absolute path that relative paths are seen from. -/
  directory : String

/-- What comes of starting a command. -/
inductive Start (Refusal : Type) where
  /-- It runs to its end, with an exit status. -/
  | exited (status : Int)
  /-- There is no such program. -/
  | notFound
  /-- Something else is in the way. -/
  | refused (reason : Refusal)

def Host.start {Refusal : Type} (host : Host Refusal) (command : List String) : Start Refusal :=
  match host.refusal command with
  | some reason => .refused reason
  | none =>
    match host.status command with
    | some status => .exited status
    | none => .notFound

/-- How a build, or the whole program, ends. -/
inductive Ending (Refusal : Type := Empty) where
  /-- It gives an exit status. -/
  | exited (status : Int)
  /-- It refuses its command line or explains it, with an exit status. -/
  | dismissed (status : Int)
  /-- A path that cannot be given to a system was to be opened. -/
  | pathUnusable
  /-- There is no C file to write. -/
  | outputMissing
  /-- There is no C compiler to start. -/
  | compilerMissing
  /-- The source file holds no text. -/
  | undecodable (fault : Utf8.Fault)
  /-- The program that was built is not there. -/
  | programMissing (name : String)
  /-- A command cannot be started, though its program may be there. -/
  | refused (command : List String) (reason : Refusal)
  deriving DecidableEq

/-- What a build has done so far. -/
structure Log where
  stdout : String := ""
  stderr : String := ""
  /-- The commands started, the last of them perhaps in vain. -/
  commands : List (List String) := []
  /-- The file written, with its text. -/
  written : Option (String × String) := none
  deriving DecidableEq

/-- A step of a build, which may end it. -/
abbrev BuildStep (Refusal : Type) := EStateM (Ending Refusal) Log

namespace Build

open CommandLine (Options)

variable {Refusal : Type}

def say (line : String) : BuildStep Refusal Unit :=
  modify fun log => { log with stdout := log.stdout ++ line ++ "\n" }

/-- Prints to the user's screen as it stands. -/
def print (text : String) : BuildStep Refusal Unit :=
  modify fun log => { log with stdout := log.stdout ++ text }

/-- Prints to the error stream as it stands. -/
def complain (text : String) : BuildStep Refusal Unit :=
  modify fun log => { log with stderr := log.stderr ++ text }

def giveUp {α : Type} (line : String) : BuildStep Refusal α := do
  complain (line ++ "\n")
  throw (.exited 1)

def start (host : Host Refusal) (command : List String) : BuildStep Refusal (Start Refusal) := do
  modify fun log => { log with commands := log.commands ++ [command] }
  return host.start command

def readSource (host : Host Refusal) (path : String) : BuildStep Refusal String := do
  say ("[WeaR Compiler] Reading: " ++ path)
  if Path.holdsNull path then throw .pathUnusable
  match host.read path with
  | none => giveUp ("Error: Cannot open file '" ++ path ++ "'")
  | some bytes =>
    match Utf8.decode bytes with
    | .ok text => return String.ofList (Utf8.normalizeNewlines text)
    | .error fault => throw (.undecodable fault)

def compileSource (debug : Bool) (source : String) : BuildStep Refusal Compilation := do
  say "[WeaR Compiler] Translating..."
  let outcome := compile debug source
  print outcome.trace
  match outcome.result with
  | .ok c => return c
  | .error (.fault _ d _) =>
    complain d.errorText
    throw (.exited 1)
  | .error _ => throw (.exited 1)

/-- Writes the C file, and gives its path. -/
def writeDocument (host : Host Refusal) (output : Option String) (document : String) :
    BuildStep Refusal String := do
  match output with
  | none => throw .outputMissing
  | some path =>
    if Path.holdsNull path then throw .pathUnusable
    if host.writable path then
      modify fun log => { log with written := some (path, document) }
      say ("[WeaR Compiler] Generated: " ++ path)
      return path
    else
      giveUp ("Error: Cannot write to file '" ++ path ++ "'")

/-- The command that compiles a C file. -/
def compilerCommand (cc path : String) : List String :=
  [cc, "-O2", "-o", Path.executable path, path]

/-- Has the C file compiled, and gives the executable. -/
def callCompiler (host : Host Refusal) (cc : Option String) (path : String) :
    BuildStep Refusal String := do
  match cc with
  | none => throw .compilerMissing
  | some cc =>
    let command := compilerCommand cc path
    say ("[WeaR Compiler] Compiling: " ++ Text.joinWith " " command)
    match ← start host command with
    | .notFound => giveUp ("[WeaR Compiler] C compiler '" ++ cc ++ "' not found")
    | .refused reason => throw (.refused command reason)
    | .exited status =>
      if status ≠ 0 then giveUp "[WeaR Compiler] C compilation failed"
      say ("[WeaR Compiler] Built: " ++ Path.executable path)
      return Path.executable path

/-- Runs the executable, and gives its exit status. -/
def runProgram (host : Host Refusal) (executable : String) : BuildStep Refusal Int := do
  say ("[WeaR Compiler] Running: " ++ executable)
  say (Text.repeated 40 '-')
  let name := Path.absolute host.directory executable
  match ← start host [name] with
  | .exited status => return status
  | .notFound => throw (.programMissing name)
  | .refused reason => throw (.refused [name] reason)

/-- A whole build, up to its exit status. -/
def build (host : Host Refusal) (o : Options) (input : String) : BuildStep Refusal Int := do
  let source ← readSource host input
  let c ← compileSource o.debug source
  complain (Text.concat (c.warnings.map Diagnostic.warningText))
  let path ← writeDocument host o.output c.document
  if o.compile || o.run then
    let executable ← callCompiler host o.cc path
    if o.run then runProgram host executable else return 0
  else
    return 0

/-- The ending of a build and what it did. -/
def run (host : Host Refusal) (o : Options) (input : String) : Ending Refusal × Log :=
  match build host o input {} with
  | .ok status log => (.exited status, log)
  | .error ending log => (ending, log)

end Build

end StageZero
