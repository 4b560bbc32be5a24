import StageZero.Proofs.Emission
import StageZero.Proofs.Motion

/-!
# Expressions are read as trees

An expression is read successfully exactly when the tokens under the cursor are
the yield of a tree that is proper, ends there and is not nested too deeply;
what is read is then the tree's fragment, and nothing but the cursor has
changed. `Reads` is this statement for one level of depth, with a direction for
each use: from a successful run to a tree, and from a tree to the run.

Each construct is taken up once in each direction, with the reader of the
expressions inside it assumed to do its work. The loops run on a count. Going
to a tree one has to see that the count never ends a loop, which it does not
because each round reads a token; going from a tree, that there are enough
rounds for it, which there are because each takes a token of the yield.
-/

namespace StageZero

open StageZero.Tree

/-- What a reader of expressions of a given depth does. -/
structure Reads (types : TypeTable) (depth : Nat) (m : Read Fragment) : Prop where
  sound : ∀ {r r' : Reading} {f : Fragment}, r.debug = false → r.cursor.Sealed →
    m r = .ok f r' → ∃ (e : Expr) (c : Cursor), r.cursor.Moves e.yield c ∧ e.Ends c.rest ∧
      e.nesting ≤ depth ∧ f = e.fragment types ∧ r' = r.move c
  complete : ∀ {r : Reading} {e : Expr} {c : Cursor}, r.debug = false →
    r.cursor.Moves e.yield c → e.Ends c.rest → e.nesting ≤ depth →
    m r = .ok (e.fragment types) (r.move c)

/-! ## What stands where -/

namespace Tree

@[simp] theorem nextKind_rest (c : Cursor) : nextKind c.rest = c.here.kind := rfl

theorem nextKind_append {ts : List Token} (h : ts ≠ []) (us : List Token) :
    nextKind (ts ++ us) = nextKind ts := by
  cases ts with
  | nil => exact absurd rfl h
  | cons t ts => rfl

theorem Part.yield_ne_nil (p : Part) : p.yield ≠ [] := by
  cases p <;> simp [Part.yield]

/-- Every part begins with a token that starts parts. -/
theorem Part.nextKind_startsPart (p : Part) : (nextKind p.yield).startsPart = true := by
  cases p <;> simp [Part.yield, nextKind, TokenKind.startsPart]

/-- Only a group begins with a parenthesis. -/
theorem Expr.nextKind_eq_lparen {e : Expr} {rest : List Token}
    (hrest : (nextKind rest).startsPart = false) (h : nextKind (e.yield ++ rest) = .lparen) :
    e.startsWithGroup = true := by
  cases e with
  | nil =>
      rw [Expr.yield, List.nil_append] at h
      rw [h] at hrest
      cases hrest
  | cons p e =>
      rw [Expr.yield, List.append_assoc, nextKind_append p.yield_ne_nil] at h
      cases p <;> simp_all [Part.yield, nextKind, Expr.startsWithGroup]

theorem Expr.nextKind_of_startsWithGroup {e : Expr} (rest : List Token)
    (h : e.startsWithGroup = true) : nextKind (e.yield ++ rest) = .lparen := by
  cases e with
  | nil => cases h
  | cons p e =>
      cases p <;> simp_all [Expr.startsWithGroup, Expr.yield, Part.yield, nextKind]

/-- Behind an argument stands a comma or what ends the arguments. -/
theorem More.nextKind_startsPart {n : Nat} (a : More n) {rest : List Token}
    (hrest : (nextKind rest).startsPart = false) :
    (nextKind (a.yield ++ rest)).startsPart = false := by
  cases a with
  | nil => exact hrest
  | cons comma arg a => rfl

theorem More.le_length_yield {n : Nat} (a : More n) : n ≤ a.yield.length := by
  induction n with
  | zero => exact Nat.zero_le _
  | succ n ih =>
      cases a with
      | cons comma arg a =>
          have := ih a
          simp only [More.yield, List.length_cons, List.length_append]
          omega

end Tree

/-! ## Arguments of a builtin -/

section

variable {types : TypeTable} {depth : Nat} {inner : Read Fragment} {r r' : Reading} {c : Cursor}

theorem of_builtinArguments_more_ok (hi : Reads types depth inner) {n : Nat}
    {codes : List String} (hq : r.debug = false) (hs : r.cursor.Sealed)
    (h : Read.builtinArguments inner false n r = .ok codes r') :
    ∃ (a : More n) (c : Cursor), r.cursor.Moves a.yield c ∧ a.Proper ∧ a.nesting ≤ depth ∧
      codes = a.codes types ∧ r' = r.move c := by
  induction n generalizing r r' codes with
  | zero =>
      cases h
      exact ⟨.nil, r.cursor, .refl _, trivial, Nat.zero_le _, rfl, rfl⟩
  | succ n ih =>
      obtain ⟨_, r₁, h₁, h⟩ := of_bind_ok h
      obtain ⟨comma, c₁, -, hm₁, rfl⟩ := Read.of_expect_ok hq hs (by decide) h₁
      obtain ⟨f, r₂, h₂, h⟩ := of_bind_ok h
      obtain ⟨e, c₂, hm₂, hends, hn, rfl, rfl⟩ := hi.sound (r := r.move c₁) hq (hm₁.isSealed hs) h₂
      obtain ⟨codes₂, r₃, h₃, h⟩ := of_bind_ok h
      obtain ⟨a, c₃, hm₃, hp, hna, rfl, rfl⟩ :=
        ih (r := r.move c₂) hq (hm₂.isSealed (hm₁.isSealed hs)) h₃
      cases h
      refine ⟨.cons comma e a, c₃, ?_, ⟨hends.1, hp⟩, Nat.max_le.2 ⟨hn, hna⟩, rfl, rfl⟩
      exact hm₁.trans (hm₂.trans hm₃)

theorem of_builtinArguments_ok (hi : Reads types depth inner) {n : Nat}
    {codes : List String} (hq : r.debug = false) (hs : r.cursor.Sealed)
    (h : Read.builtinArguments inner true n r = .ok codes r') :
    ∃ (a : Args n) (c : Cursor), r.cursor.Moves a.yield c ∧ a.Proper ∧ a.nesting ≤ depth ∧
      codes = a.codes types ∧ r' = r.move c := by
  cases n with
  | zero =>
      cases h
      exact ⟨.none, r.cursor, .refl _, trivial, Nat.zero_le _, rfl, rfl⟩
  | succ n =>
      obtain ⟨f, r₁, h₁, h⟩ := of_bind_ok h
      obtain ⟨e, c₁, hm₁, hends, hn, rfl, rfl⟩ := hi.sound hq hs h₁
      obtain ⟨codes₂, r₂, h₂, h⟩ := of_bind_ok h
      obtain ⟨a, c₂, hm₂, hp, hna, rfl, rfl⟩ :=
        of_builtinArguments_more_ok hi (r := r.move c₁) hq (hm₁.isSealed hs) h₂
      cases h
      exact ⟨.some e a, c₂, hm₁.trans hm₂, ⟨hends.1, hp⟩, Nat.max_le.2 ⟨hn, hna⟩, rfl, rfl⟩

theorem builtinArguments_more_of_moves (hi : Reads types depth inner) {n : Nat} {a : More n}
    (hq : r.debug = false) (hm : r.cursor.Moves a.yield c) (hp : a.Proper)
    (hn : a.nesting ≤ depth) (hc : c.here.kind.startsPart = false) :
    Read.builtinArguments inner false n r = .ok (a.codes types) (r.move c) := by
  induction n generalizing r with
  | zero =>
      cases a
      rw [← hm.eq_of_nil]
      rfl
  | succ n ih =>
      cases a with
      | cons comma arg a =>
          obtain ⟨c₁, hm₁, hm⟩ := hm.head_split
          obtain ⟨c₂, hm₂, hm₃⟩ := hm.split
          have hends : arg.Ends c₂.rest := ⟨hp.1, by
            rw [hm₃.rest]
            exact a.nextKind_startsPart hc⟩
          have hn := Nat.max_le.1 hn
          refine (bind_ok (Read.expect_of_moves hq hm₁ rfl)).trans ?_
          refine (bind_ok (hi.complete (r := r.move c₁) hq hm₂ hends hn.1)).trans ?_
          exact (bind_ok (ih (r := r.move c₂) hq hm₃ hp.2 hn.2)).trans rfl

theorem builtinArguments_of_moves (hi : Reads types depth inner) {n : Nat} {a : Args n}
    (hq : r.debug = false) (hm : r.cursor.Moves a.yield c) (hp : a.Proper)
    (hn : a.nesting ≤ depth) (hc : c.here.kind.startsPart = false) :
    Read.builtinArguments inner true n r = .ok (a.codes types) (r.move c) := by
  cases a with
  | none =>
      rw [← hm.eq_of_nil]
      rfl
  | some first more =>
      obtain ⟨c₁, hm₁, hm₂⟩ := hm.split
      have hends : first.Ends c₁.rest := ⟨hp.1, by
        rw [hm₂.rest]
        exact more.nextKind_startsPart hc⟩
      have hn := Nat.max_le.1 hn
      refine (bind_ok (hi.complete hq hm₁ hends hn.1)).trans ?_
      exact (bind_ok
        (builtinArguments_more_of_moves hi (r := r.move c₁) hq hm₂ hp.2 hn.2 hc)).trans rfl

/-! ## Builtins -/

theorem of_builtin_ok (hi : Reads types depth inner) {word : Builtin} {f : Fragment}
    (hq : r.debug = false) (hs : r.cursor.Sealed) (hk : r.cursor.here.kind = .builtin word)
    (h : Read.builtin inner r = .ok f r') :
    ∃ (mark opening : Mark) (a : Args word.routine.arity) (closing : Mark) (c : Cursor),
      r.cursor.Moves (Part.builtin word mark opening a closing).yield c ∧ a.Proper ∧
      a.nesting ≤ depth ∧ f = .call word.routine (a.codes types) ∧ r' = r.move c := by
  obtain ⟨tok, r₁, h₁, h⟩ := of_bind_ok h
  obtain ⟨mark, c₁, rfl, hm₁, rfl⟩ := Read.of_advance_ok hs hk (by simp) h₁
  have hs₁ := hm₁.isSealed hs
  obtain ⟨_, r₂, h₂, h⟩ := of_bind_ok h
  obtain ⟨opening, c₂, -, hm₂, rfl⟩ := Read.of_expect_ok (r := r.move c₁) hq hs₁ (by decide) h₂
  have hs₂ := hm₂.isSealed hs₁
  obtain ⟨codes, r₃, h₃, h⟩ := of_bind_ok h
  obtain ⟨a, c₃, hm₃, hp, hn, rfl, rfl⟩ := of_builtinArguments_ok hi (r := r.move c₂) hq hs₂ h₃
  obtain ⟨_, r₄, h₄, h⟩ := of_bind_ok h
  obtain ⟨closing, c₄, -, hm₄, rfl⟩ :=
    Read.of_expect_ok (r := r.move c₃) hq (hm₃.isSealed hs₂) (by decide) h₄
  cases h
  exact ⟨mark, opening, a, closing, c₄, hm₁.trans (hm₂.trans (hm₃.trans hm₄)), hp, hn, rfl, rfl⟩

theorem builtin_of_moves (hi : Reads types depth inner) {word : Builtin} {mark opening : Mark}
    {a : Args word.routine.arity} {closing : Mark} (hq : r.debug = false)
    (hm : r.cursor.Moves (Part.builtin word mark opening a closing).yield c) (hp : a.Proper)
    (hn : a.nesting ≤ depth) :
    Read.builtin inner r = .ok (.call word.routine (a.codes types)) (r.move c) := by
  obtain ⟨c₁, hm₁, hm⟩ := hm.head_split
  obtain ⟨c₂, hm₂, hm⟩ := hm.head_split
  obtain ⟨c₃, hm₃, hm₄⟩ := hm.split
  have hc : c₃.here.kind.startsPart = false := by rw [hm₄.here_eq]; rfl
  refine (bind_ok (Read.advance_of_moves hm₁)).trans ?_
  refine (bind_ok (Read.expect_of_moves (r := r.move c₁) hq hm₂ rfl)).trans ?_
  refine (bind_ok (builtinArguments_of_moves hi (r := r.move c₂) hq hm₃ hp hn hc)).trans ?_
  exact (bind_ok (Read.expect_of_moves (r := r.move c₃) hq hm₄ rfl)).trans rfl

/-! ## Arguments of a call

The first argument may be empty, and a call without arguments has the tokens of
a call with one empty argument. Both are written the same. -/

theorem of_argumentList_more_ok (hi : Reads types depth inner) {k : Nat} {codes : List String}
    (hq : r.debug = false) (hs : r.cursor.Sealed)
    (h : Read.argumentList inner false k r = .ok codes r') :
    ∃ (n : Nat) (a : More n) (c : Cursor), r.cursor.Moves a.yield c ∧ a.Proper ∧
      a.nesting ≤ depth ∧ codes = a.codes types ∧ r' = r.move c := by
  induction k generalizing r r' codes with
  | zero =>
      cases h
      exact ⟨0, .nil, r.cursor, .refl _, trivial, Nat.zero_le _, rfl, rfl⟩
  | succ k ih =>
      obtain ⟨tok, r₀, h₀, h⟩ := of_bind_ok h
      cases h₀
      split at h
      · cases h
        exact ⟨0, .nil, r.cursor, .refl _, trivial, Nat.zero_le _, rfl, rfl⟩
      · obtain ⟨_, r₁, h₁, h⟩ := of_bind_ok h
        obtain ⟨comma, c₁, -, hm₁, rfl⟩ := Read.of_expect_ok hq hs (by decide) h₁
        have hs₁ := hm₁.isSealed hs
        obtain ⟨f, r₂, h₂, h⟩ := of_bind_ok h
        obtain ⟨e, c₂, hm₂, hends, hn, rfl, rfl⟩ := hi.sound (r := r.move c₁) hq hs₁ h₂
        obtain ⟨codes₂, r₃, h₃, h⟩ := of_bind_ok h
        obtain ⟨n, a, c₃, hm₃, hp, hna, rfl, rfl⟩ :=
          ih (r := r.move c₂) hq (hm₂.isSealed hs₁) h₃
        cases h
        refine ⟨n + 1, .cons comma e a, c₃, ?_, ⟨hends.1, hp⟩, Nat.max_le.2 ⟨hn, hna⟩, rfl, rfl⟩
        exact hm₁.trans (hm₂.trans hm₃)

theorem of_callArguments_ok (hi : Reads types depth inner) {args : String}
    (hq : r.debug = false) (hs : r.cursor.Sealed)
    (h : Read.callArguments inner r = .ok args r') :
    ∃ (n : Nat) (a : Args n) (closing : Mark) (c : Cursor),
      r.cursor.Moves (a.yield ++ [closing.as .rparen]) c ∧ a.Proper ∧ a.nesting ≤ depth ∧
      args = Text.joinWith ", " (a.codes types) ∧ r' = r.move c := by
  have hlist : ∀ {k : Nat} {codes : List String} {r' : Reading},
      Read.argumentList inner true k r = .ok codes r' →
      ∃ (n : Nat) (a : Args n) (c : Cursor), r.cursor.Moves a.yield c ∧ a.Proper ∧
        a.nesting ≤ depth ∧ codes = a.codes types ∧ r' = r.move c := by
    intro k codes r' h
    cases k with
    | zero =>
        cases h
        exact ⟨0, .none, r.cursor, .refl _, trivial, Nat.zero_le _, rfl, rfl⟩
    | succ k =>
        obtain ⟨tok, r₀, h₀, h⟩ := of_bind_ok h
        cases h₀
        split at h
        · cases h
          exact ⟨0, .none, r.cursor, .refl _, trivial, Nat.zero_le _, rfl, rfl⟩
        · obtain ⟨f, r₁, h₁, h⟩ := of_bind_ok h
          obtain ⟨e, c₁, hm₁, hends, hn, rfl, rfl⟩ := hi.sound hq hs h₁
          obtain ⟨codes₂, r₂, h₂, h⟩ := of_bind_ok h
          obtain ⟨n, a, c₂, hm₂, hp, hna, rfl, rfl⟩ :=
            of_argumentList_more_ok hi (r := r.move c₁) hq (hm₁.isSealed hs) h₂
          cases h
          exact ⟨n + 1, .some e a, c₂, hm₁.trans hm₂, ⟨hends.1, hp⟩, Nat.max_le.2 ⟨hn, hna⟩,
            rfl, rfl⟩
  obtain ⟨_, r₀, h₀, h⟩ := of_bind_ok h
  cases h₀
  obtain ⟨codes, r₁, h₁, h⟩ := of_bind_ok h
  obtain ⟨n, a, c₁, hm₁, hp, hn, rfl, rfl⟩ := hlist h₁
  obtain ⟨_, r₂, h₂, h⟩ := of_bind_ok h
  obtain ⟨closing, c₂, -, hm₂, rfl⟩ :=
    Read.of_expect_ok (r := r.move c₁) hq (hm₁.isSealed hs) (by decide) h₂
  cases h
  exact ⟨n, a, closing, c₂, hm₁.trans hm₂, hp, hn, rfl, rfl⟩

theorem argumentList_more_of_moves (hi : Reads types depth inner) {n k : Nat} {a : More n}
    (hq : r.debug = false) (hm : r.cursor.Moves a.yield c) (hp : a.Proper)
    (hn : a.nesting ≤ depth) (hc : c.here.kind = .rparen) (hk : n < k) :
    Read.argumentList inner false k r = .ok (a.codes types) (r.move c) := by
  obtain ⟨k, rfl⟩ : ∃ j, k = j + 1 := ⟨k - 1, by omega⟩
  induction n generalizing r k with
  | zero =>
      cases a
      obtain rfl := hm.eq_of_nil
      refine (bind_ok (show Read.current r = .ok r.cursor.here r from rfl)).trans ?_
      rw [if_pos (.inl hc)]
      rfl
  | succ n ih =>
      obtain ⟨k, rfl⟩ : ∃ j, k = j + 1 := ⟨k - 1, by omega⟩
      cases a with
      | cons comma arg a =>
          obtain ⟨c₁, hm₁, hm⟩ := hm.head_split
          obtain ⟨c₂, hm₂, hm₃⟩ := hm.split
          have hends : arg.Ends c₂.rest := ⟨hp.1, by
            rw [hm₃.rest]
            exact a.nextKind_startsPart (by rw [nextKind_rest, hc]; rfl)⟩
          have hn := Nat.max_le.1 hn
          refine (bind_ok (show Read.current r = .ok r.cursor.here r from rfl)).trans ?_
          rw [if_neg (by rw [hm₁.here_eq]; simp)]
          refine (bind_ok (Read.expect_of_moves hq hm₁ rfl)).trans ?_
          refine (bind_ok (hi.complete (r := r.move c₁) hq hm₂ hends hn.1)).trans ?_
          exact (bind_ok (ih (r := r.move c₂) hq hm₃ hp.2 hn.2 (k := k) (by omega))).trans rfl

theorem callArguments_of_moves (hi : Reads types depth inner) {n : Nat} {a : Args n}
    {closing : Mark} (hq : r.debug = false)
    (hm : r.cursor.Moves (a.yield ++ [closing.as .rparen]) c) (hp : a.Proper)
    (hn : a.nesting ≤ depth) :
    Read.callArguments inner r = .ok (Text.joinWith ", " (a.codes types)) (r.move c) := by
  obtain ⟨c₁, hm₁, hm₂⟩ := hm.split
  have hclose : Read.expect .rparen .unclosedArguments (r.move c₁) =
      .ok (closing.as .rparen) (r.move c) :=
    Read.expect_of_moves (r := r.move c₁) hq hm₂ rfl
  have hlen := hm.length_ahead
  rw [List.length_append, List.length_singleton] at hlen
  refine (bind_ok (show Read.remaining r = .ok r.cursor.ahead.length r from rfl)).trans ?_
  -- Without any token the list is left at once, whether there was an argument or not.
  have hleave : r.cursor = c₁ → Read.argumentList inner true (r.cursor.ahead.length + 2) r =
      .ok [] (r.move c₁) := by
    intro hc
    refine (bind_ok (show Read.current r = .ok r.cursor.here r from rfl)).trans ?_
    rw [if_pos (.inl (by rw [hc, hm₂.here_eq]; rfl)), ← hc]
    rfl
  cases a with
  | none =>
      refine (bind_ok (hleave hm₁.eq_of_nil)).trans ?_
      exact (bind_ok hclose).trans rfl
  | some first more =>
      obtain ⟨c₂, hm₃, hm₄⟩ := hm₁.split
      by_cases hempty : first.yield = [] ∧ more.yield = []
      · obtain ⟨hf, hmo⟩ := hempty
        have hc : r.cursor = c₁ := by
          rw [Args.yield, hf, hmo] at hm₁
          exact hm₁.eq_of_nil
        refine (bind_ok (hleave hc)).trans ?_
        refine (bind_ok hclose).trans ?_
        cases first with
        | nil =>
            cases more with
            | nil => rfl
            | cons comma arg more => cases hmo
        | cons p e => exact absurd (List.append_eq_nil_iff.1 hf).1 p.yield_ne_nil
      · have hstops : ¬ (r.cursor.here.kind = .rparen ∨ r.cursor.here.kind = .eof) := by
          have hhere : r.cursor.here.kind = nextKind (first.yield ++ more.yield) := by
            rw [← nextKind_rest, hm₁.rest, Args.yield, nextKind_append]
            simpa using hempty
          rw [hhere]
          cases first with
          | nil =>
              cases more with
              | nil => exact absurd ⟨rfl, rfl⟩ hempty
              | cons comma arg more => simp [Expr.yield, More.yield, nextKind]
          | cons p e =>
              have hstart := p.nextKind_startsPart
              rw [Expr.yield, List.append_assoc, nextKind_append p.yield_ne_nil]
              rintro (h | h) <;> rw [h] at hstart <;> cases hstart
        have hcl : c₁.here.kind = .rparen := by rw [hm₂.here_eq]; rfl
        have hends : first.Ends c₂.rest := ⟨hp.1, by
          rw [hm₄.rest]
          exact more.nextKind_startsPart (by rw [nextKind_rest, hcl]; rfl)⟩
        have hn := Nat.max_le.1 hn
        have hle := more.le_length_yield
        have hlen₂ := hm₄.length_ahead
        have hlen₁ := hm₃.length_ahead
        have hfirst := hi.complete hq hm₃ hends hn.1
        have hmore := argumentList_more_of_moves hi (r := r.move c₂)
          (k := r.cursor.ahead.length + 1) hq hm₄ hp.2 hn.2 hcl (by omega)
        have hlist : Read.argumentList inner true (r.cursor.ahead.length + 2) r =
            .ok ((Args.some first more).codes types) (r.move c₁) := by
          refine (bind_ok (show Read.current r = .ok r.cursor.here r from rfl)).trans ?_
          rw [if_neg hstops]
          exact (bind_ok hfirst).trans ((bind_ok hmore).trans rfl)
        exact (bind_ok hlist).trans ((bind_ok hclose).trans rfl)

/-! ## Parts -/

/-- A part stands between two cursors as the greedy reader takes it. -/
structure PartAt (depth : Nat) (c : Cursor) (p : Part) (c' : Cursor) : Prop where
  moves : c.Moves p.yield c'
  proper : p.Proper
  nesting : p.nesting ≤ depth
  plain : p.isName = true → c'.here.kind ≠ .lparen

theorem of_reference_ok (hi : Reads types depth inner) {f : Fragment} (hq : r.debug = false)
    (hs : r.cursor.Sealed) (hk : r.cursor.here.kind = .identifier)
    (h : Read.reference types inner r = .ok f r') :
    ∃ p c, PartAt depth r.cursor p c ∧ f = p.fragment types ∧ r' = r.move c := by
  obtain ⟨tok, r₁, h₁, h⟩ := of_bind_ok h
  obtain ⟨name, c₁, rfl, hm₁, rfl⟩ := Read.of_advance_ok hs hk (by decide) h₁
  have hs₁ := hm₁.isSealed hs
  obtain ⟨b, r₂, h₂, h⟩ := of_bind_ok h
  rcases Read.accept_cases .lparen (r := r.move c₁) hs₁ (by decide) with
    ⟨opening, c₂, hm₂, hacc⟩ | ⟨hne, hacc⟩
  · cases hacc.symm.trans h₂
    obtain ⟨args, r₃, h₃, h⟩ := of_bind_ok h
    obtain ⟨n, a, closing, c₃, hm₃, hp, hn, rfl, rfl⟩ :=
      of_callArguments_ok hi (r := r.move c₂) hq (hm₂.isSealed hs₁) h₃
    cases h
    exact ⟨.call name opening a closing, c₃,
      ⟨hm₁.trans (hm₂.trans hm₃), hp, hn, fun h => by cases h⟩, rfl, rfl⟩
  · cases hacc.symm.trans h₂
    cases h
    exact ⟨.name name, c₁, ⟨hm₁, trivial, Nat.zero_le _, fun _ => hne⟩, rfl, rfl⟩

theorem of_group_ok (hi : Reads types depth inner) {f : Fragment} (hq : r.debug = false)
    (hs : r.cursor.Sealed) (hk : r.cursor.here.kind = .lparen)
    (h : Read.group inner r = .ok f r') :
    ∃ p c, PartAt depth r.cursor p c ∧ f = p.fragment types ∧ r' = r.move c := by
  obtain ⟨tok, r₁, h₁, h⟩ := of_bind_ok h
  obtain ⟨opening, c₁, rfl, hm₁, rfl⟩ := Read.of_advance_ok hs hk (by decide) h₁
  have hs₁ := hm₁.isSealed hs
  obtain ⟨f, r₂, h₂, h⟩ := of_bind_ok h
  obtain ⟨e, c₂, hm₂, hends, hn, rfl, rfl⟩ := hi.sound (r := r.move c₁) hq hs₁ h₂
  obtain ⟨_, r₃, h₃, h⟩ := of_bind_ok h
  obtain ⟨closing, c₃, -, hm₃, rfl⟩ :=
    Read.of_expect_ok (r := r.move c₂) hq (hm₂.isSealed hs₁) (by decide) h₃
  cases h
  exact ⟨.group opening e closing, c₃,
    ⟨hm₁.trans (hm₂.trans hm₃), hends.1, hn, fun h => by cases h⟩, rfl, rfl⟩

/-- The next part is read, or there is none under the cursor. -/
theorem of_part?_ok (hi : Reads types depth inner) {f : Option Fragment} (hq : r.debug = false)
    (hs : r.cursor.Sealed) (h : Read.part? types inner r = .ok f r') :
    (f = none ∧ r' = r ∧ r.cursor.here.kind.startsPart = false) ∨
      ∃ p c, PartAt depth r.cursor p c ∧ f = some (p.fragment types) ∧ r' = r.move c := by
  obtain ⟨tok, r₀, h₀, h⟩ := of_bind_ok h
  cases h₀
  cases hk : r.cursor.here.kind with
  | string =>
      rw [hk] at h
      obtain ⟨_, r₁, h₁, h⟩ := of_bind_ok h
      obtain ⟨m, c₁, -, hm₁, rfl⟩ := Read.of_advance_ok hs hk (by decide) h₁
      cases h
      refine .inr ⟨.string m, c₁, ⟨hm₁, trivial, Nat.zero_le _, fun h => by cases h⟩, ?_, rfl⟩
      rw [hm₁.here_eq]
      rfl
  | integer =>
      rw [hk] at h
      obtain ⟨_, r₁, h₁, h⟩ := of_bind_ok h
      obtain ⟨m, c₁, -, hm₁, rfl⟩ := Read.of_advance_ok hs hk (by decide) h₁
      cases h
      refine .inr ⟨.integer m, c₁, ⟨hm₁, trivial, Nat.zero_le _, fun h => by cases h⟩, ?_, rfl⟩
      rw [hm₁.here_eq]
      rfl
  | builtin word =>
      rw [hk] at h
      obtain ⟨f, r₁, h₁, h⟩ := of_bind_ok h
      obtain ⟨mark, opening, a, closing, c₁, hm₁, hp, hn, rfl, rfl⟩ :=
        of_builtin_ok hi hq hs hk h₁
      cases h
      exact .inr ⟨.builtin word mark opening a closing, c₁,
        ⟨hm₁, hp, hn, fun h => by cases h⟩, rfl, rfl⟩
  | identifier =>
      rw [hk] at h
      obtain ⟨f, r₁, h₁, h⟩ := of_bind_ok h
      obtain ⟨p, c₁, hat, rfl, rfl⟩ := of_reference_ok hi hq hs hk h₁
      cases h
      exact .inr ⟨p, c₁, hat, rfl, rfl⟩
  | operator o =>
      rw [hk] at h
      obtain ⟨_, r₁, h₁, h⟩ := of_bind_ok h
      obtain ⟨m, c₁, -, hm₁, rfl⟩ := Read.of_advance_ok hs hk (by simp) h₁
      cases h
      exact .inr ⟨.sign o m, c₁, ⟨hm₁, trivial, Nat.zero_le _, fun h => by cases h⟩, rfl, rfl⟩
  | lparen =>
      rw [hk] at h
      obtain ⟨f, r₁, h₁, h⟩ := of_bind_ok h
      obtain ⟨p, c₁, hat, rfl, rfl⟩ := of_group_ok hi hq hs hk h₁
      cases h
      exact .inr ⟨p, c₁, hat, rfl, rfl⟩
  | _ =>
      rw [hk] at h
      cases h
      exact .inl ⟨rfl, rfl, rfl⟩

theorem part?_of_partAt (hi : Reads types depth inner) {p : Part} (hq : r.debug = false)
    (hat : PartAt depth r.cursor p c) :
    Read.part? types inner r = .ok (some (p.fragment types)) (r.move c) := by
  obtain ⟨hm, hp, hn, hplain⟩ := hat
  refine (bind_ok (show Read.current r = .ok r.cursor.here r from rfl)).trans ?_
  cases p with
  | integer m | string m | sign o m =>
      rw [hm.here_eq]
      exact (bind_ok (Read.advance_of_moves hm)).trans rfl
  | name name =>
      have href : Read.reference types inner r =
          .ok ((Part.name name).fragment types) (r.move c) := by
        refine (bind_ok (Read.advance_of_moves hm)).trans ?_
        exact (bind_ok (Read.accept_of_ne (r := r.move c) (hplain rfl))).trans rfl
      rw [hm.here_eq]
      exact (bind_ok href).trans rfl
  | call name opening a closing =>
      obtain ⟨c₁, hm₁, hm'⟩ := hm.head_split
      obtain ⟨c₂, hm₂, hm₃⟩ := hm'.head_split
      have href : Read.reference types inner r =
          .ok ((Part.call name opening a closing).fragment types) (r.move c) := by
        refine (bind_ok (Read.advance_of_moves hm₁)).trans ?_
        refine (bind_ok (Read.accept_of_moves (r := r.move c₁) hm₂ rfl)).trans ?_
        exact (bind_ok (callArguments_of_moves hi (r := r.move c₂) hq hm₃ hp hn)).trans rfl
      rw [hm.here_eq]
      exact (bind_ok href).trans rfl
  | builtin word mark opening a closing =>
      rw [hm.here_eq]
      exact (bind_ok (builtin_of_moves hi hq hm hp hn)).trans rfl
  | group opening e closing =>
      obtain ⟨c₁, hm₁, hm'⟩ := hm.head_split
      obtain ⟨c₂, hm₂, hm₃⟩ := hm'.split
      have hends : e.Ends c₂.rest := ⟨hp, by rw [nextKind_rest, hm₃.here_eq]; rfl⟩
      have hgroup : Read.group inner r =
          .ok ((Part.group opening e closing).fragment types) (r.move c) := by
        refine (bind_ok (Read.advance_of_moves hm₁)).trans ?_
        refine (bind_ok (hi.complete (r := r.move c₁) hq hm₂ hends hn)).trans ?_
        exact (bind_ok (Read.expect_of_moves (r := r.move c₂) hq hm₃ rfl)).trans rfl
      rw [hm.here_eq]
      exact (bind_ok hgroup).trans rfl

theorem part?_of_stop (h : r.cursor.here.kind.startsPart = false) :
    Read.part? types inner r = .ok none r := by
  refine (bind_ok (show Read.current r = .ok r.cursor.here r from rfl)).trans ?_
  cases hk : r.cursor.here.kind with
  | string | integer | identifier | lparen => rw [hk] at h; cases h
  | builtin word | operator o => rw [hk] at h; cases h
  | _ => rfl

/-! ## Whole expressions -/

theorem of_parts_ok (hi : Reads types depth inner) {k : Nat} {fs : List Fragment}
    (hq : r.debug = false) (hs : r.cursor.Sealed) (hk : r.cursor.ahead.length < k)
    (h : Read.parts types inner k r = .ok fs r') :
    ∃ (e : Expr) (c : Cursor), r.cursor.Moves e.yield c ∧ e.Ends c.rest ∧
      e.nesting ≤ depth + 1 ∧ fs = e.fragments types ∧ r' = r.move c := by
  induction k generalizing r r' fs with
  | zero => omega
  | succ k ih =>
      obtain ⟨f, r₁, h₁, hk₁⟩ := of_bind_ok h
      rcases of_part?_ok hi hq hs h₁ with ⟨rfl, hr, hstop⟩ | ⟨p, c₁, hat, rfl, rfl⟩
      · cases hk₁
        exact ⟨.nil, r.cursor, .refl _, ⟨trivial, hstop⟩, by simp [Expr.nesting], rfl, hr⟩
      · obtain ⟨fs₂, r₂, h₂, h⟩ := of_bind_ok hk₁
        have hlen := hat.moves.length_ahead
        have hpos := List.length_pos_iff.2 p.yield_ne_nil
        obtain ⟨e, c₂, hm₂, hends, hn, rfl, rfl⟩ :=
          ih (r := r.move c₁) hq (hat.moves.isSealed hs) (by simp; omega) h₂
        cases h
        refine ⟨.cons p e, c₂, hat.moves.trans hm₂, ⟨⟨hat.proper, ?_, hends.1⟩, hends.2⟩,
          Nat.max_le.2 ⟨Nat.succ_le_succ hat.nesting, hn⟩, rfl, rfl⟩
        rintro ⟨hname, hgroup⟩
        have := Expr.nextKind_of_startsWithGroup c₂.rest hgroup
        rw [← hm₂.rest] at this
        exact hat.plain hname this

theorem parts_of_moves (hi : Reads types depth inner) {k : Nat} {e : Expr}
    (hq : r.debug = false) (hm : r.cursor.Moves e.yield c) (hends : e.Ends c.rest)
    (hn : e.nesting ≤ depth + 1) (hk : e.yield.length < k) :
    Read.parts types inner k r = .ok (e.fragments types) (r.move c) := by
  induction k generalizing r e with
  | zero => omega
  | succ k ih =>
      cases e with
      | nil =>
          rw [← hm.eq_of_nil] at hends ⊢
          exact (bind_ok (part?_of_stop hends.2)).trans rfl
      | cons p e =>
          obtain ⟨c₁, hm₁, hm₂⟩ := hm.split
          obtain ⟨⟨hp, hplain, hpe⟩, hstop⟩ := hends
          have hn := Nat.max_le.1 hn
          have hat : PartAt depth r.cursor p c₁ := by
            refine ⟨hm₁, hp, Nat.le_of_succ_le_succ hn.1, fun hname hl => hplain ⟨hname, ?_⟩⟩
            rw [← nextKind_rest, hm₂.rest] at hl
            exact Expr.nextKind_eq_lparen hstop hl
          have hpos := List.length_pos_iff.2 p.yield_ne_nil
          rw [Expr.yield, List.length_append] at hk
          refine (bind_ok (part?_of_partAt hi hq hat)).trans ?_
          exact (bind_ok (ih (r := r.move c₁) hq hm₂ ⟨hpe, hstop⟩ hn.2 (by omega))).trans rfl

theorem Reads.over (hi : Reads types depth inner) :
    Reads types (depth + 1) (Read.expressionOver types inner) where
  sound := by
    intro r r' f hq hs h
    obtain ⟨_, r₀, h₀, h⟩ := of_bind_ok h
    cases h₀
    obtain ⟨fs, r₁, h₁, h⟩ := of_bind_ok h
    obtain ⟨e, c, hm, hends, hn, rfl, rfl⟩ := of_parts_ok hi hq hs (Nat.lt_succ_self _) h₁
    obtain ⟨_, r₂, h₂, h⟩ := of_bind_ok h
    rw [Read.note_quiet (r := r.move c) hq] at h₂
    cases h₂
    cases h
    exact ⟨e, c, hm, hends, hn, rfl, rfl⟩
  complete := by
    intro r e c hq hm hends hn
    have hlen := hm.length_ahead
    refine (bind_ok (show Read.remaining r = .ok r.cursor.ahead.length r from rfl)).trans ?_
    refine (bind_ok (parts_of_moves hi hq hm hends hn (by omega))).trans ?_
    exact (bind_ok (Read.note_quiet (r := r.move c) hq _)).trans rfl

end

/-- Expressions are read as trees. -/
theorem reads_expression (types : TypeTable) (depth : Nat) :
    Reads types depth (Read.expression types depth) := by
  induction depth with
  | zero =>
      refine ⟨fun _ _ h => (by cases h), fun {r e c} _ _ _ hn => ?_⟩
      have : 1 ≤ e.nesting := by
        cases e with
        | nil => exact Nat.le_refl _
        | cons p e => exact Nat.le_trans (Nat.succ_le_succ (Nat.zero_le _)) (Nat.le_max_left _ _)
      omega
  | succ d ih => exact ih.over

end StageZero
