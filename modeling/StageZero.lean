import StageZero.Main
import StageZero.Web.Playground
import StageZero.Proofs.Documented
import StageZero.Proofs.Conversations
import StageZero.Proofs.Unfinished
import StageZero.Proofs.Nesting
import StageZero.Proofs.Pointing
import StageZero.Proofs.Outline
import StageZero.Proofs.Operands
import StageZero.Proofs.Literals
import StageZero.Proofs.Semicolons
import StageZero.Proofs.Verdicts
import StageZero.Proofs.Remarks
import StageZero.Proofs.Declarations
import StageZero.Proofs.Calls
import StageZero.Proofs.EndOfInput
import StageZero.Proofs.Joining
import StageZero.Proofs.Builds
import StageZero.Proofs.Answers
import StageZero.Proofs.Executables
import StageZero.Proofs.Extent
