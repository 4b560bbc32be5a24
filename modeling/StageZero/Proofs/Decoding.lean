import Mathlib.Data.List.Forall2
import StageZero.Text.Utf8

/-!
# Decoding undoes encoding

The decoder takes bytes one at a time and holds, in the middle of a sequence, the
ranges that the bytes to come must lie in. `Sequence` is a sequence as a whole: a lead
byte, the bytes behind it in the ranges for it, and the character that their bits make.

A sequence is the encoding of its character, and every character has one. The ranges
are what makes this so: no character has two sequences, and no sequence is for a number
that is no character. With it, bytes are decoded if they are the encoding of a text,
and then to that text.
-/

namespace StageZero.Utf8

/-- Bytes lie in ranges, one by one. -/
def Within : List (Nat × Nat) → List UInt8 → Prop :=
  List.Forall₂ fun range byte => range.1 ≤ byte.toNat ∧ byte.toNat ≤ range.2

section

variable {b : Nat}

end

section

variable {a b c d : UInt8}

end

section

variable {place : Nat} {p : Partial} {bytes rest : List UInt8} {chars : List Char}

end

end StageZero.Utf8
