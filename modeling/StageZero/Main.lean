import StageZero.Program

/-!
# The command

Carries out what an invocation decides: reads the source file, writes the C
file, prints, and holds the conversation of an interactive session. No external
command is started from here, so to a build it looks as if none existed.
-/

namespace StageZero.Main

/-- The host of a build: the source file as it was read, and whether the C file
can be written. -/
def host (directory : String) (source : Option ByteArray) (writable : Bool) : Host where
  read _ := source
  writable _ := writable
  status _ := none
  directory := directory

/-- Prints what an invocation prints, and gives its exit status. -/
def report (ending : Ending) (log : Log) : IO UInt32 := do
  IO.print log.stdout
  IO.eprint log.stderr
  match ending with
  | .exited status => return UInt32.ofNat (status % 256).toNat
  | .dismissed status => return UInt32.ofNat (status % 256).toNat
  | .undecodable fault =>
    IO.eprintln fault.message
    return 1
  | .programMissing name =>
    IO.eprintln name
    return 1
  | .pathUnusable | .outputMissing | .compilerMissing => return 1

/-- The contents of a file, if it can be read. -/
def contents? (path : String) : IO (Option ByteArray) := do
  try
    return some (← IO.FS.readBinFile path)
  catch _ =>
    return none

/-- Writes a file, and says whether that went well. -/
def write (path text : String) : IO Bool := do
  try
    IO.FS.writeFile path text
    return true
  catch _ =>
    return false

/-- Builds a file. The build is run again as one that cannot write if its file
turns out not to be writable. -/
def build (args : List String) (input : String) : IO UInt32 := do
  let directory ← IO.currentDir
  let source ← contents? input
  let (ending, log) := invoke (host directory.toString source true) args []
  match log.written with
  | none => report ending log
  | some (path, text) =>
    if ← write path text then report ending log
    else
      let (ending, log) := invoke (host directory.toString source false) args []
      report ending log

partial def talk (input : IO.FS.Stream) (s : Session) : IO UInt32 := do
  IO.print s.prompt
  (← IO.getStdout).flush
  let line ← input.getLine
  if line.isEmpty then
    IO.print "\n"
    return 0
  match s.step (Text.dropLineEnd line) with
  | .leave output =>
    IO.print output
    return 0
  | .goOn next output =>
    IO.print output
    talk input next

end StageZero.Main

open StageZero in
def main (args : List String) : IO UInt32 := do
  match CommandLine.parse args with
  | .options ⟨some input, _, _, _, _, _⟩ => Main.build args input
  | .options ⟨none, _, _, _, _, debug⟩ =>
    IO.print Session.welcome
    Main.talk (← IO.getStdin) { debug := debug }
  | _ =>
    let (ending, log) := invoke (Main.host "" none false) args []
    Main.report ending log
