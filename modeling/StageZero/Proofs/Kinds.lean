import StageZero.Proofs.Chains
import StageZero.Proofs.Parentheses
import StageZero.Proofs.Silence
import StageZero.Proofs.Steps

/-!
# The kind of an expression is written in its tokens

An expression is a text or an integer, and the C around it depends on which. The
kind is found in two ways, by a fold that is asked for only when there is a text and
by looking through the parts, and groups hand it up while calls keep it to
themselves. From outside it is one thing: an expression is a text when one of its
tokens is, a string, a name declared as a text or a builtin that gives one, and that
token does not stand among the arguments of a call.

The statement is about tokens and not about trees, so that it says nothing of how
they are read. Its proof goes down the tree: what a list of tokens shows is what its
two halves show, as long as the first has closed its parentheses and does not end
in a word that takes the second for its arguments.
-/

namespace StageZero

open StageZero.Tree

namespace Fragment

theorem kind_concatenate {parts : List Fragment} (h : parts.any isText = true) :
    (concatenate parts).kind = .text := by
  obtain ⟨part, hpart, htext⟩ := List.any_eq_true.1 h
  have hos := exists_text_operand ⟨part, hpart, by simpa [isText] using htext⟩
  obtain ⟨first, rest, hcons⟩ : ∃ first rest, operands parts = first :: rest := by
    obtain ⟨o, ho, -⟩ := hos
    exact List.exists_cons_of_ne_nil (List.ne_nil_of_mem ho)
  rw [concatenate_eq hcons (by rwa [hcons] at hos)]

theorem kind_ofParts (parts : List Fragment) :
    (ofParts parts).kind = (join parts).kind := by
  unfold ofParts
  split
  · next h =>
      have hany : parts.any isText = true := by
        simp only [Bool.and_eq_true] at h
        exact h.1.1
      rw [kind_concatenate hany]
      simp [join, hany]
  · rfl

theorem kind_join_eq_text (parts : List Fragment) :
    (join parts).kind = .text ↔ parts.any isText = true := by
  cases h : parts.any isText <;> simp [join, h]

end Fragment

theorem Routine.kind_eq_text (r : Routine) : r.kind = .text ↔ r.result = some .text := by
  unfold Routine.kind
  cases r.result with
  | none => simp
  | some slot => cases slot <;> simp [Slot.kind]

namespace Tree

/-- A token that makes an expression a text, with the tokens behind it: a string, a
name that is no call and was declared as a text, or a builtin that gives a text. -/
def ShowsText (types : TypeTable) (t : Token) (rest : List Token) : Prop :=
  match t.kind with
  | .string => True
  | .identifier => rest.head?.map Token.kind ≠ some .lparen ∧ types.lookup t.value = .text
  | .builtin word => word.routine.result = some .text
  | _ => False

/-- One of the tokens makes an expression a text, and it is in no argument list. -/
def HasText (types : TypeTable) (ts : List Token) : Prop :=
  ∃ before t after, ts = before ++ t :: after ∧ Outside before ∧ ShowsText types t after

variable {types : TypeTable} {ts us : List Token}

/-- More tokens behind a name matter if the first of them is a parenthesis. -/
theorem ShowsText.append {t : Token} (h : ShowsText types t ts)
    (hword : ts = [] → takesArguments t.kind = true → us.head?.map Token.kind ≠ some .lparen) :
    ShowsText types t (ts ++ us) := by
  unfold ShowsText at h ⊢
  split
  · trivial
  · next hk =>
      rw [hk] at h
      refine ⟨?_, h.2⟩
      cases ts with
      | nil => exact hword rfl (by rw [hk]; rfl)
      | cons u ts => exact h.1
  · next hk => rwa [hk] at h
  · next h₁ h₂ h₃ => simp_all

theorem ShowsText.of_append {t : Token} (h : ShowsText types t (ts ++ us)) :
    ShowsText types t ts := by
  unfold ShowsText at h ⊢
  split
  · trivial
  · next hk =>
      rw [hk] at h
      refine ⟨?_, h.2⟩
      cases ts with
      | nil => simp
      | cons u ts => exact h.1
  · next hk => rwa [hk] at h
  · next h₁ h₂ h₃ => simp_all

theorem hasText_singleton (t : Token) : HasText types [t] ↔ ShowsText types t [] := by
  constructor
  · rintro ⟨before, u, after, heq, -, hu⟩
    rcases List.cons_eq_append_iff.1 heq with ⟨rfl, hcons⟩ | ⟨_, rfl, hnil⟩
    · cases hcons
      exact hu
    · simp at hnil
  · intro h
    exact ⟨[], t, [], rfl, outside_nil, h⟩

/-- What two lists show one behind the other. -/
theorem hasText_append (hout : Outside ts)
    (hword : EndsInWord ts → us.head?.map Token.kind ≠ some .lparen) :
    HasText types (ts ++ us) ↔ HasText types ts ∨ HasText types us := by
  constructor
  · rintro ⟨before, t, after, heq, hbefore, ht⟩
    rcases List.append_eq_append_iff.1 heq with ⟨middle, rfl, hus⟩ | ⟨middle, hts, hmiddle⟩
    · exact .inr ⟨middle, t, after, hus, hbefore.of_append, ht⟩
    · cases middle with
      | nil => exact .inr ⟨[], t, after, hmiddle.symm, outside_nil, ht⟩
      | cons u middle =>
          rw [List.cons_append, List.cons.injEq] at hmiddle
          obtain ⟨rfl, rfl⟩ := hmiddle
          exact .inl ⟨before, t, middle, hts, hbefore, ht.of_append⟩
  · rintro (⟨before, t, after, rfl, hbefore, ht⟩ | ⟨before, t, after, rfl, hbefore, ht⟩)
    · refine ⟨before, t, after ++ us, by simp, hbefore, ht.append ?_⟩
      rintro rfl hw
      exact hword ⟨t, by rw [List.getLast?_concat]; rfl, hw⟩
    · refine ⟨ts ++ before, t, after, by simp, hout.append hbefore fun hends => ?_, ht⟩
      cases before with
      | nil => simp
      | cons u before => exact hword hends

/-- Of a call only the word before its arguments counts. -/
theorem hasText_call {word opening closing : Token} {args : List Token}
    (hw : takesArguments word.kind = true) (ho : opening.kind = .lparen) (hb : Balanced args)
    (hc : closing.kind = .rparen) :
    HasText types (word :: opening :: (args ++ [closing])) ↔
      ShowsText types word (opening :: (args ++ [closing])) := by
  constructor
  · rintro ⟨before, t, after, heq, hbefore, ht⟩
    match before with
    | [] =>
        cases heq
        exact ht
    | [_] =>
        cases heq
        rw [ShowsText, ho] at ht
        exact ht.elim
    | first :: second :: before =>
        rw [List.cons_append, List.cons_append, List.cons.injEq, List.cons.injEq] at heq
        obtain ⟨rfl, rfl, heq⟩ := heq
        rcases List.append_eq_append_iff.1 heq with ⟨middle, hmiddle, hlast⟩ | ⟨middle, hargs, -⟩
        · -- the token is the closing parenthesis itself
          obtain ⟨rfl, hlast⟩ | ⟨_, rfl, hlast⟩ := List.cons_eq_append_iff.1 hlast
          · cases hlast
            rw [ShowsText, hc] at ht
            exact ht.elim
          · simp at hlast
        · exact absurd hbefore (not_outside hw ho hb hargs)
  · intro h
    exact ⟨[], word, _, rfl, outside_nil, h⟩

theorem Part.isName_of_endsInWord {p : Part} (h : EndsInWord p.yield) : p.isName = true := by
  obtain ⟨t, ht, hk⟩ := h
  cases p with
  | name _ => rfl
  | integer _ | string _ | sign _ _ =>
      cases ht
      cases hk
  | group _ _ _ | call _ _ _ _ | builtin _ _ _ _ _ =>
      simp only [Part.yield, ← List.cons_append, List.getLast?_concat] at ht
      cases ht
      cases hk

mutual

/-- A part is a text if its tokens show one. -/
theorem Part.kind_iff (types : TypeTable) :
    (p : Part) → p.Proper → (HasText types p.yield ↔ (p.fragment types).kind = .text)
  | .integer _, _ => by simp [Part.yield, hasText_singleton, ShowsText, Part.fragment]
  | .string _, _ => by
      simp [Part.yield, hasText_singleton, ShowsText, Part.fragment, Fragment.literal]
  | .name _, _ => by simp [Part.yield, hasText_singleton, ShowsText, Part.fragment, Mark.as]
  | .sign _ _, _ => by
      simp [Part.yield, hasText_singleton, ShowsText, Part.fragment, Fragment.sign]
  | .group opening inner closing, hp => by
      have hinner := inner.kind_iff types hp
      have hopening : ¬ HasText types [opening.as .lparen] := by simp [hasText_singleton, ShowsText]
      have hclosing : ¬ HasText types [closing.as .rparen] := by simp [hasText_singleton, ShowsText]
      rw [Part.yield, ← List.singleton_append,
        hasText_append (outside_singleton _) (by simp [EndsInWord, takesArguments]),
        hasText_append inner.balanced.outside (by simp)]
      simp only [hopening, hclosing, false_or, or_false, hinner]
      rfl
  | .call name opening args closing, _ => by
      rw [Part.yield, hasText_call rfl rfl args.balanced rfl]
      simp [ShowsText, Part.fragment]
  | .builtin word mark opening args closing, _ => by
      rw [Part.yield, hasText_call rfl rfl args.balanced rfl]
      exact (word.routine.kind_eq_text).symm

/-- An expression is a text if its tokens show one. -/
theorem Expr.kind_iff (types : TypeTable) :
    (e : Expr) → e.Proper → (HasText types e.yield ↔ (e.fragment types).kind = .text)
  | .nil, _ => by
      simp only [Expr.yield, Expr.fragment, Fragment.kind_ofParts]
      constructor
      · rintro ⟨before, t, after, heq, -, -⟩
        simp at heq
      · intro h
        cases h
  | .cons head tail, hp => by
      obtain ⟨hhead, hplain, htail⟩ := hp
      have hword : EndsInWord head.yield → tail.yield.head?.map Token.kind ≠ some .lparen := by
        intro hends hl
        refine hplain ⟨Part.isName_of_endsInWord hends, ?_⟩
        cases tail with
        | nil => cases hl
        | cons next tail => cases next <;> simp_all [Expr.yield, Part.yield, Expr.startsWithGroup]
      rw [Expr.yield, hasText_append head.balanced.outside hword, head.kind_iff types hhead,
        tail.kind_iff types htail]
      simp only [Expr.fragment, Fragment.kind_ofParts, Fragment.kind_join_eq_text, Expr.fragments,
        List.any_cons, Bool.or_eq_true, Fragment.isText, beq_iff_eq]

end

end Tree

/-- An expression that is read is a text if one of the tokens it was read from makes
it one, and an integer if none does, whichever way its parts are put together. Types
and output stay as they are. The tokens of a generator always end with the end of
input. -/
theorem expression_kind_is_shown {depth : Nat} {s s' : State} {f : Fragment}
    (hs : s.cursor.Sealed) (h : Gen.expression depth s = .ok f s') :
    ∃ ts, s.cursor.Moves ts s'.cursor ∧
      (f.kind = .text ↔ HasText s.types ts) ∧ (f.kind = .integer ↔ ¬ HasText s.types ts) ∧
      f.kind ≠ .unknown ∧
      (∃ parts, f = Fragment.ofParts parts ∧ f.kind = (Fragment.join parts).kind ∧
        (parts.any Fragment.isText = true → f.kind = (Fragment.concatenate parts).kind)) ∧
      s'.types = s.types ∧ s'.output = s.output := by
  have hquiet : Gen.expression depth s.quiet = .ok f s'.quiet := by
    rw [Gen.silent_expression depth s, h]
    rfl
  obtain ⟨e, c, hm, hends, -, rfl, hs'⟩ := Gen.of_expression_ok (s := s.quiet) rfl hs hquiet
  have hcursor : s'.cursor = c := congrArg (fun s : State => s.cursor) hs'
  have htypes : s'.quiet.types = (s.quiet.move c).types := congrArg State.types hs'
  have houtput : s'.quiet.output = (s.quiet.move c).output := congrArg State.output hs'
  have htext : HasText s.types e.yield ↔ (e.fragment s.types).kind = .text :=
    e.kind_iff s.types hends.1
  have hknown : (e.fragment s.types).kind ≠ .unknown := by
    rw [Expr.fragment, Fragment.kind_ofParts]
    exact Fragment.kind_join _
  refine ⟨e.yield, hcursor ▸ hm, htext.symm, ?_, hknown,
    ⟨e.fragments s.types, rfl, Fragment.kind_ofParts _, fun hany => ?_⟩, htypes, houtput⟩
  · rw [htext]
    change (e.fragment s.types).kind = .integer ↔ _
    cases hk : (e.fragment s.types).kind with
    | unknown => exact absurd hk hknown
    | _ => simp
  · rw [Fragment.kind_concatenate hany]
    exact (Fragment.kind_ofParts _).trans ((Fragment.kind_join_eq_text _).2 hany)

/-- A state before an expression with strings and a text in arguments only. -/
def hiddenTexts : State :=
  { State.ofTokens (tokenize "strlen(\"a\") + (f(t, \"b\") - 1)") (.ofSource "") true with
    types := ⟨[("t", .text)]⟩ }

theorem expression_kind_is_shown_hidden :
    ∃ f s', Gen.expression 3 hiddenTexts = .ok f s' ∧ f.kind = .integer ∧
      ∃ ts, hiddenTexts.cursor.Moves ts s'.cursor ∧ ¬ HasText hiddenTexts.types ts ∧
        s'.types = hiddenTexts.types ∧ s'.output = hiddenTexts.output := by
  have hok : (match Gen.expression 3 hiddenTexts with
      | .ok f _ => decide (f.kind = .integer)
      | .error _ _ => false) = true := by
    decide +kernel
  cases hrun : Gen.expression 3 hiddenTexts with
  | error e s' =>
      rw [hrun] at hok
      cases hok
  | ok f s' =>
      rw [hrun] at hok
      have hkind : f.kind = .integer := of_decide_eq_true hok
      obtain ⟨ts, hm, -, hinteger, -, -, htypes, houtput⟩ :=
        expression_kind_is_shown (Cursor.sealed_ofTokens _) hrun
      exact ⟨f, s', rfl, hkind, ts, hm, hinteger.1 hkind, htypes, houtput⟩

end StageZero
