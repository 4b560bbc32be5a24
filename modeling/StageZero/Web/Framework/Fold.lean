import StageZero.Web.Framework.Fold.Image
import StageZero.Web.Framework.Fold.Mark
import StageZero.Web.Framework.Fold.Pair

/-!
# Folded text

Two texts that mean the same name have one folded form: each character is
replaced by its image, the marks are arranged, and what can be composed is.
Characters are given by their code points.
-/

namespace StageZero.Text.Fold

def fold (text : List Nat) : List Nat :=
  compose (arrange (text.flatMap image))

end StageZero.Text.Fold
