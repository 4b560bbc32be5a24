import StageZero.Build
import StageZero.Session

/-!
# The program

One invocation: the command line decides between a build, an interactive
session, and an explanation of the command line itself.
-/

namespace StageZero

/-- Invokes the program. The lines are what the user types if a session is
started. -/
def invoke {Refusal : Type} (host : Host Refusal) (args lines : List String) :
    Ending Refusal × Log :=
  match CommandLine.parse args with
  | .help => (.dismissed 0, { stdout := CommandLine.helpText })
  | .refused message => (.dismissed 2, { stderr := CommandLine.refusal message })
  | .options o =>
    match o.input with
    | some input => Build.run host o input
    | none => (.exited 0, { stdout := (Session.transcript o.debug lines).output })

end StageZero
