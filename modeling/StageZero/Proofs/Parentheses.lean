import Mathlib.Tactic.Common
import StageZero.Proofs.Tree

/-!
# Parentheses and argument lists

Whether a token stands in the arguments of a call can be seen from the tokens
before it alone: somewhere there is a name or a builtin with a parenthesis right
behind it, and that parenthesis is still open. `Outside` says that there is none.

The yields of trees are balanced, so that they leave no parenthesis open, and what
stands in front of a token in the yield of a tree can be cut down part by part.
-/

namespace StageZero.Tree

/-- How many parentheses a token opens. -/
def rise (t : Token) : Int :=
  match t.kind with
  | .lparen => 1
  | .rparen => -1
  | _ => 0

/-- How many more parentheses are opened than closed. -/
def height : List Token → Int
  | [] => 0
  | t :: ts => rise t + height ts

@[simp] theorem height_nil : height [] = 0 := rfl

@[simp] theorem height_cons (t : Token) (ts : List Token) :
    height (t :: ts) = rise t + height ts := rfl

@[simp] theorem height_append (ts us : List Token) :
    height (ts ++ us) = height ts + height us := by
  induction ts with
  | nil => simp
  | cons t ts ih => rw [List.cons_append, height_cons, height_cons, ih, Int.add_assoc]

/-- As many parentheses are closed as are opened, and none before it is opened. -/
structure Balanced (ts : List Token) : Prop where
  total : height ts = 0
  prefixes : ∀ before after, ts = before ++ after → 0 ≤ height before

namespace Balanced

variable {ts us : List Token}

theorem nil : Balanced [] := by
  refine ⟨rfl, ?_⟩
  intro before after h
  have hbefore : before = [] := (List.append_eq_nil_iff.1 h.symm).1
  simp [hbefore]

theorem append (h : Balanced ts) (h' : Balanced us) : Balanced (ts ++ us) := by
  constructor
  · rw [height_append, h.total, h'.total, Int.add_zero]
  · intro before after heq
    rcases List.append_eq_append_iff.1 heq with ⟨middle, rfl, hus⟩ | ⟨middle, hts, -⟩
    · rw [height_append, h.total, Int.zero_add]
      exact h'.prefixes middle after hus
    · exact h.prefixes before middle hts

theorem singleton {t : Token} (h : rise t = 0) : Balanced [t] := by
  refine ⟨by simp [h], ?_⟩
  intro before after heq
  rcases List.cons_eq_append_iff.1 heq with ⟨rfl, -⟩ | ⟨us, rfl, hus⟩
  · simp
  · rw [(List.append_eq_nil_iff.1 hus.symm).1]
    simp [h]

theorem cons {t : Token} (ht : rise t = 0) (h : Balanced ts) : Balanced (t :: ts) :=
  (singleton ht).append h

/-- What is balanced stays so in parentheses. -/
theorem enclosed (h : Balanced ts) (opening closing : Mark) :
    Balanced (opening.as .lparen :: (ts ++ [closing.as .rparen])) := by
  have hl : rise (opening.as .lparen) = 1 := rfl
  have hr : rise (closing.as .rparen) = -1 := rfl
  refine ⟨by simp [h.total, hl, hr], ?_⟩
  intro before after heq
  rcases List.cons_eq_append_iff.1 heq with ⟨rfl, -⟩ | ⟨us, rfl, hus⟩
  · simp
  · rw [height_cons, hl]
    rcases List.append_eq_append_iff.1 hus with ⟨middle, rfl, hclosing⟩ | ⟨middle, hts, -⟩
    · rcases List.cons_eq_append_iff.1 hclosing with ⟨rfl, -⟩ | ⟨last, rfl, hlast⟩
      · simp [h.total]
      · rw [(List.append_eq_nil_iff.1 hlast.symm).1]
        simp [h.total, hr]
    · have := h.prefixes us middle hts
      omega

end Balanced

mutual

theorem Part.balanced : (p : Part) → Balanced p.yield
  | .integer _ | .string _ | .name _ | .sign _ _ => .singleton rfl
  | .group opening inner closing => inner.balanced.enclosed opening closing
  | .call _ opening args closing => .cons rfl (args.balanced.enclosed opening closing)
  | .builtin _ _ opening args closing => .cons rfl (args.balanced.enclosed opening closing)

theorem Expr.balanced : (e : Expr) → Balanced e.yield
  | .nil => .nil
  | .cons head tail => head.balanced.append tail.balanced

theorem Args.balanced {n : Nat} : (a : Args n) → Balanced a.yield
  | .none => .nil
  | .some first more => first.balanced.append more.balanced

theorem More.balanced {n : Nat} : (m : More n) → Balanced m.yield
  | .nil => .nil
  | .cons _ arg rest => .cons rfl (arg.balanced.append rest.balanced)

end

/-! ## Argument lists -/

/-- Kinds of the tokens that a parenthesis right behind them gives arguments. -/
def takesArguments : TokenKind → Bool
  | .identifier | .builtin _ => true
  | _ => false

/-- Behind these tokens one is in no argument list: where a parenthesis opened one,
some stretch behind it closes more than it opens. -/
def Outside (ts : List Token) : Prop :=
  ∀ before word opening after, ts = before ++ word :: opening :: after →
    takesArguments word.kind = true → opening.kind = .lparen →
      ∃ closed more, after = closed ++ more ∧ height closed < 0

/-- The last token would take arguments. -/
def EndsInWord (ts : List Token) : Prop :=
  ∃ t ∈ ts.getLast?, takesArguments t.kind = true

theorem outside_nil : Outside [] := by
  intro before word opening after h
  simp at h

theorem outside_singleton (t : Token) : Outside [t] := by
  intro before word opening after h
  have := congrArg List.length h
  simp only [List.length_append, List.length_cons, List.length_nil] at this
  omega

/-- A balanced list has closed what it has opened. -/
theorem Balanced.outside {ts : List Token} (h : Balanced ts) : Outside ts := by
  intro before word opening after heq hword hopening
  refine ⟨after, [], (List.append_nil _).symm, ?_⟩
  have hl : rise opening = 1 := by rw [rise, hopening]
  have htotal := h.total
  have hbefore := h.prefixes (before ++ [word]) (opening :: after) (by rw [heq]; simp)
  rw [heq] at htotal
  simp only [height_append, height_cons, height_nil, hl] at htotal hbefore
  omega

theorem Outside.of_append {ts us : List Token} (h : Outside (ts ++ us)) : Outside us := by
  intro before word opening after heq
  exact h (ts ++ before) word opening after (by rw [heq, List.append_assoc])

theorem Outside.append {ts us : List Token} (h : Outside ts) (h' : Outside us)
    (hword : EndsInWord ts → us.head?.map Token.kind ≠ some .lparen) : Outside (ts ++ us) := by
  intro before word opening after heq hw ho
  rcases List.append_eq_append_iff.1 heq with ⟨middle, rfl, hus⟩ | ⟨middle, hts, hmiddle⟩
  · exact h' middle word opening after hus hw ho
  · match middle with
    | [] => exact h' [] word opening after hmiddle.symm hw ho
    | [last] =>
        -- the word is the last of the one list and the parenthesis the first of the other
        rw [List.singleton_append, List.cons.injEq] at hmiddle
        obtain ⟨rfl, rfl⟩ := hmiddle
        refine absurd ?_ (hword ⟨word, by rw [hts, List.getLast?_concat]; rfl, hw⟩)
        rw [List.head?_cons, Option.map_some, ho]
    | first :: second :: tail =>
        rw [List.cons_append, List.cons_append, List.cons.injEq, List.cons.injEq] at hmiddle
        obtain ⟨rfl, rfl, rfl⟩ := hmiddle
        obtain ⟨closed, more, rfl, hclosed⟩ := h before word opening tail hts hw ho
        exact ⟨closed, more ++ us, List.append_assoc _ _ _, hclosed⟩

/-- In the arguments of a call no place is outside. -/
theorem not_outside {word opening : Token} {before after args : List Token}
    (hw : takesArguments word.kind = true) (ho : opening.kind = .lparen) (hb : Balanced args)
    (h : args = before ++ after) : ¬ Outside (word :: opening :: before) := by
  intro hout
  obtain ⟨closed, more, rfl, hclosed⟩ := hout [] word opening before rfl hw ho
  have := hb.prefixes closed (more ++ after) (by rw [h, List.append_assoc])
  omega

end StageZero.Tree
