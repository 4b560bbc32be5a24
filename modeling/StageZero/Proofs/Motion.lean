import StageZero.Proofs.Tree
import StageZero.Generator.Statement

/-!
# Moving through the tokens

A cursor that has read some tokens stands behind them, with everything else as
it was. `Cursor.Moves` is that fact, and all reading is stated in it: a step
that succeeds has moved the cursor over the yield of something, and over the
yield of something the step succeeds.

The two directions need different things. Going forward, the tokens that are
read are given, so there is a token to go on to. Going backward, all that is
known is that a step succeeded, and moving on from the last token does nothing;
so there the list must be sealed by an end-of-input token, and no step is ever
content with that one.

All of this is about a generator that keeps no trace.
-/

namespace StageZero

/-! ## Steps that succeed -/

section

variable {ε σ α β : Type} {m : EStateM ε σ α} {k : α → EStateM ε σ β} {s s' s'' : σ} {a : α} {b : β}

theorem bind_ok (h : m s = .ok a s') : (m >>= k) s = k a s' := by
  show EStateM.bind m k s = k a s'
  unfold EStateM.bind
  rw [h]

theorem bind_error {e : ε} (h : m s = .error e s') : (m >>= k) s = .error e s' := by
  show EStateM.bind m k s = .error e s'
  unfold EStateM.bind
  rw [h]

theorem of_bind_ok (h : (m >>= k) s = .ok b s'') :
    ∃ a s', m s = .ok a s' ∧ k a s' = .ok b s'' := by
  change EStateM.bind m k s = .ok b s'' at h
  unfold EStateM.bind at h
  cases hm : m s with
  | ok a s' => rw [hm] at h; exact ⟨a, s', rfl, h⟩
  | error e s' => rw [hm] at h; cases h

/-- Whether a step has an answer. -/
def succeeds : EStateM.Result ε σ α → Bool
  | .ok _ _ => true
  | .error _ _ => false

/-- Where a step has come to, with or without an answer. -/
def ending : EStateM.Result ε σ α → σ
  | .ok _ s => s
  | .error _ s => s

theorem exists_of_succeeds {r : EStateM.Result ε σ α} (h : succeeds r = true) :
    ∃ a s, r = .ok a s := by
  cases r with
  | ok a s => exact ⟨a, s, rfl⟩
  | error e s => cases h

end

/-! ## Cursors -/

namespace Cursor

/-- The tokens from the cursor on. -/
def rest (c : Cursor) : List Token :=
  c.here :: c.ahead

/-- The second cursor stands behind the given tokens, read from the first. -/
structure Moves (c : Cursor) (ts : List Token) (c' : Cursor) : Prop where
  rest : c.rest = ts ++ c'.rest
  passed : c'.passed = ts.reverse ++ c.passed

theorem ext_rest {c c' : Cursor} (hp : c.passed = c'.passed) (hr : c.rest = c'.rest) : c = c' := by
  cases c
  cases c'
  simp_all [rest]

namespace Moves

variable {c c₁ c₂ : Cursor} {t : Token} {ts us : List Token}

theorem refl (c : Cursor) : c.Moves [] c := ⟨rfl, rfl⟩

theorem trans (h₁ : c.Moves ts c₁) (h₂ : c₁.Moves us c₂) : c.Moves (ts ++ us) c₂ := by
  constructor
  · rw [h₁.rest, h₂.rest, List.append_assoc]
  · rw [h₂.passed, h₁.passed, List.reverse_append, List.append_assoc]

theorem unique (h₁ : c.Moves ts c₁) (h₂ : c.Moves ts c₂) : c₁ = c₂ := by
  refine ext_rest (h₁.passed.trans h₂.passed.symm) ?_
  exact List.append_cancel_left (h₁.rest.symm.trans h₂.rest)

theorem eq_of_nil (h : c.Moves [] c₁) : c = c₁ :=
  unique (refl c) h

/-- Where the first of the tokens is, and that there is one behind it. -/
theorem head (h : c.Moves (t :: ts) c₁) : c.here = t ∧ c.next.Moves ts c₁ := by
  obtain ⟨hr, hp⟩ := h
  obtain ⟨rfl, ha⟩ : c.here = t ∧ c.ahead = ts ++ c₁.rest := by simpa [Cursor.rest] using hr
  refine ⟨rfl, ?_⟩
  cases ts with
  | nil =>
      rw [Cursor.rest, List.nil_append] at ha
      exact ⟨by simp [Cursor.next, ha, Cursor.rest], by simp [Cursor.next, ha, hp]⟩
  | cons u us =>
      rw [List.cons_append] at ha
      exact ⟨by simp [Cursor.next, ha, Cursor.rest], by simp [Cursor.next, ha, hp]⟩

theorem here_eq (h : c.Moves (t :: ts) c₁) : c.here = t := h.head.1

theorem next (h : c.Moves (t :: ts) c₁) : c.next.Moves ts c₁ := h.head.2

theorem next_eq (h : c.Moves [t] c₁) : c.next = c₁ := h.next.eq_of_nil

theorem first (h : c.Moves (t :: ts) c₁) : c.Moves [t] c.next := by
  have hn := h.next
  constructor
  · rw [h.rest, hn.rest, List.cons_append, List.singleton_append]
  · have hp := hn.passed.symm.trans h.passed
    rw [List.reverse_cons, List.append_assoc] at hp
    exact List.append_cancel_left hp

/-- A way along several tokens passes by every place between them. -/
theorem split (h : c.Moves (ts ++ us) c₂) : ∃ c₁, c.Moves ts c₁ ∧ c₁.Moves us c₂ := by
  induction ts generalizing c with
  | nil => exact ⟨c, refl c, h⟩
  | cons t ts ih =>
      obtain ⟨c₁, h₁, h₂⟩ := ih h.next
      exact ⟨c₁, h.first.trans h₁, h₂⟩

theorem head_split (h : c.Moves (t :: ts) c₂) : ∃ c₁, c.Moves [t] c₁ ∧ c₁.Moves ts c₂ :=
  split h

theorem length_ahead (h : c.Moves ts c₁) : c.ahead.length = ts.length + c₁.ahead.length := by
  have := congrArg List.length h.rest
  simp only [Cursor.rest, List.length_cons, List.length_append] at this
  omega

end Moves

/-- A cursor can move over the tokens it sees, as long as one is left. -/
theorem exists_moves {c : Cursor} {ts us : List Token} (h : c.rest = ts ++ us) (hne : us ≠ []) :
    ∃ c', c.Moves ts c' ∧ c'.rest = us := by
  obtain ⟨u, us, rfl⟩ := List.exists_cons_of_ne_nil hne
  exact ⟨⟨ts.reverse ++ c.passed, u, us⟩, ⟨h, rfl⟩, rfl⟩

/-- The last token is the end of input. -/
def Sealed (c : Cursor) : Prop :=
  c.last.kind = .eof

theorem getLast?_rest (c : Cursor) : c.rest.getLast? = some c.last := by
  rw [last, List.getLastD_eq_getLast?]
  exact List.getLast?_cons

theorem Moves.isSealed_iff {c c' : Cursor} {ts : List Token} (h : c.Moves ts c') :
    c'.Sealed ↔ c.Sealed := by
  have hl : some c.last = some c'.last := by
    rw [← getLast?_rest, ← getLast?_rest, h.rest, List.getLast?_append, getLast?_rest]
    rfl
  unfold Sealed
  rw [Option.some.inj hl]

theorem Moves.isSealed {c c' : Cursor} {ts : List Token} (h : c.Moves ts c') (hs : c.Sealed) :
    c'.Sealed :=
  h.isSealed_iff.2 hs

/-- In a sealed list every token but the end of input has one behind it. -/
theorem Sealed.moves_next {c : Cursor} (hs : c.Sealed) (hk : c.here.kind ≠ .eof) :
    c.Moves [c.here] c.next := by
  unfold Sealed last at hs
  cases ha : c.ahead with
  | nil => rw [ha] at hs; exact absurd hs hk
  | cons t ts => exact ⟨by simp [rest, next, ha], by simp [next, ha]⟩

theorem terminate_getLast (t : Token) (ts : List Token) :
    ((terminate t ts).getLastD t).kind = .eof := by
  induction ts generalizing t with
  | nil =>
      unfold terminate
      split
      · next h => exact h
      · rfl
  | cons u us ih =>
      unfold terminate
      rw [List.getLastD_cons]
      exact ih u

theorem sealed_ofTokens (tokens : List Token) : (ofTokens tokens).Sealed := by
  cases tokens with
  | nil => rfl
  | cons t ts => exact terminate_getLast t ts

end Cursor

/-! ## Reading single tokens -/

/-- A reading with its cursor at another place. -/
def Reading.move (r : Reading) (c : Cursor) : Reading :=
  { r with cursor := c }

@[simp] theorem Reading.cursor_move (r : Reading) (c : Cursor) : (r.move c).cursor = c := rfl

namespace Read

variable {r r' : Reading} {c : Cursor} {t : Token} {kind : TokenKind} {cause : Fault}

theorem note_quiet (hq : r.debug = false) (e : Event) : note e r = .ok () r := by
  show EStateM.Result.ok PUnit.unit (if r.debug then _ else r) = .ok () r
  rw [hq]
  rfl

theorem advance_of_moves (h : r.cursor.Moves [t] c) : advance r = .ok t (r.move c) := by
  rw [← h.here_eq, ← h.next_eq]
  rfl

theorem of_advance_ok (hs : r.cursor.Sealed) (hk : r.cursor.here.kind = kind) (hne : kind ≠ .eof)
    (h : advance r = .ok t r') :
    ∃ m : Tree.Mark, ∃ c, t = m.as kind ∧ r.cursor.Moves [m.as kind] c ∧ r' = r.move c := by
  cases h
  obtain ⟨m, hm⟩ := Tree.exists_mark hk
  refine ⟨m, r.cursor.next, hm, ?_, rfl⟩
  rw [← hm]
  exact hs.moves_next (by rw [hk]; exact hne)

theorem expect_of_moves (hq : r.debug = false) (h : r.cursor.Moves [t] c) (hk : t.kind = kind) :
    expect kind cause r = .ok t (r.move c) := by
  have hcheck : check kind r = .ok true r := by
    show EStateM.Result.ok (decide (r.cursor.here.kind = kind)) r = _
    rw [h.here_eq, decide_eq_true hk]
  unfold expect
  rw [bind_ok (show current r = .ok r.cursor.here r from rfl), bind_ok (note_quiet hq _),
    bind_ok hcheck]
  exact advance_of_moves h

theorem of_expect_ok (hq : r.debug = false) (hs : r.cursor.Sealed) (hne : kind ≠ .eof)
    (h : expect kind cause r = .ok t r') :
    ∃ m : Tree.Mark, ∃ c, t = m.as kind ∧ r.cursor.Moves [m.as kind] c ∧ r' = r.move c := by
  unfold expect at h
  rw [bind_ok (show current r = .ok r.cursor.here r from rfl), bind_ok (note_quiet hq _)] at h
  rw [bind_ok (show check kind r = .ok (decide (r.cursor.here.kind = kind)) r from rfl)] at h
  split at h
  · next hk => exact of_advance_ok hs (of_decide_eq_true hk) hne h
  · cases h

theorem accept_of_moves (h : r.cursor.Moves [t] c) (hk : t.kind = kind) :
    accept kind r = .ok true (r.move c) := by
  have hcheck : check kind r = .ok true r := by
    show EStateM.Result.ok (decide (r.cursor.here.kind = kind)) r = _
    rw [h.here_eq, decide_eq_true hk]
  unfold accept
  rw [bind_ok hcheck, if_pos rfl, bind_ok (advance_of_moves h)]
  rfl

theorem accept_of_ne (hk : r.cursor.here.kind ≠ kind) : accept kind r = .ok false r := by
  have hcheck : check kind r = .ok false r := by
    show EStateM.Result.ok (decide (r.cursor.here.kind = kind)) r = _
    rw [decide_eq_false hk]
  unfold accept
  rw [bind_ok hcheck, if_neg (by simp)]
  rfl

/-- Whether a token was accepted is whether it was of the kind. -/
theorem accept_cases (kind : TokenKind) (hs : r.cursor.Sealed) (hne : kind ≠ .eof) :
    (∃ m : Tree.Mark, ∃ c, r.cursor.Moves [m.as kind] c ∧ accept kind r = .ok true (r.move c)) ∨
      (r.cursor.here.kind ≠ kind ∧ accept kind r = .ok false r) := by
  by_cases hk : r.cursor.here.kind = kind
  · obtain ⟨m, hm⟩ := Tree.exists_mark hk
    have hmove := hs.moves_next (by rw [hk]; exact hne)
    rw [hm] at hmove
    exact .inl ⟨m, _, hmove, accept_of_moves hmove rfl⟩
  · exact .inr ⟨hk, accept_of_ne hk⟩

end Read

end StageZero
