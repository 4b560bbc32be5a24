import Mathlib.Data.List.DropRight
import StageZero.Text

/-!
# The last mark of a text

The line one stands in begins behind the last line break, the name of a file behind the
last slash of its path, and an extension behind the last dot of a name. All of them are
looked for from the end of the text. Behind the last mark there is none, and either it is
there, or nothing is cut off.

What is dropped from the end of a text is looked for in the same way.
-/

namespace StageZero.Text

/-- What stands between the last mark of a text and its end. -/
def tail (mark : Char) (text : List Char) : List Char :=
  (text.reverse.takeWhile (· ≠ mark)).reverse

theorem mark_notMem_tail (mark : Char) (text : List Char) : mark ∉ tail mark text := by
  intro h
  simpa using List.mem_rtakeWhile_imp h

/-- A text has no mark, or the last of them stands before its tail. -/
theorem last_mark_cases (mark : Char) (text : List Char) :
    (text.reverse.dropWhile (· ≠ mark) = [] ∧ text = tail mark text) ∨
      ∃ left, text.reverse.dropWhile (· ≠ mark) = mark :: left.reverse ∧
        text = left ++ mark :: tail mark text := by
  have hsplit : (text.reverse.dropWhile (· ≠ mark)).reverse ++ tail mark text = text :=
    List.rdropWhile_append_rtakeWhile
  have hhead := List.head?_dropWhile_not (· ≠ mark) text.reverse
  cases hdrop : text.reverse.dropWhile (· ≠ mark) with
  | nil =>
      rw [hdrop] at hsplit
      exact .inl ⟨rfl, hsplit.symm⟩
  | cons c left =>
      rw [hdrop] at hhead
      obtain rfl : c = mark := by simpa using hhead
      rw [hdrop, List.reverse_cons, List.append_assoc] at hsplit
      exact .inr ⟨left.reverse, by rw [List.reverse_reverse], hsplit.symm⟩

/-- Only the given character is dropped, and all of it. -/
theorem dropEnd_append (c : Char) (text : String) :
    ∃ k, text.toList = (dropEnd c text).toList ++ List.replicate k c ∧
      (dropEnd c text).toList.getLast? ≠ some c := by
  have hsplit : (text.toList.reverse.dropWhile (· == c)).reverse ++
      (text.toList.reverse.takeWhile (· == c)).reverse = text.toList :=
    List.rdropWhile_append_rtakeWhile
  have hrun : (text.toList.reverse.takeWhile (· == c)).reverse =
      List.replicate (text.toList.reverse.takeWhile (· == c)).length c := by
    refine List.eq_replicate_iff.2 ⟨List.length_reverse, ?_⟩
    intro d hd
    simpa using List.mem_rtakeWhile_imp hd
  refine ⟨(text.toList.reverse.takeWhile (· == c)).length, ?_, ?_⟩
  · rw [dropEnd, String.toList_ofList, ← hrun, hsplit]
  · rw [dropEnd, String.toList_ofList, List.getLast?_reverse]
    intro hhead
    have hnot := List.head?_dropWhile_not (· == c) text.toList.reverse
    rw [hhead] at hnot
    simp at hnot

end StageZero.Text
