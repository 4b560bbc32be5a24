import StageZero.Proofs.ExpressionReading

/-!
# Single steps of the generator

What the generator does token by token: it reads as a reader does, with its own
state around, and it passes over line breaks. The steps come in the same two
directions as in the reading of expressions, and the same is done here for the
list of a function's parameters, which is read by a loop of its own.

The look past line breaks for an alternative is a step too. It either finds one
and stands before it, or finds none and has not moved.
-/

namespace StageZero

open StageZero.Tree

/-! ## Line breaks -/

namespace Tree

theorem nextKindPastLines_lines (lines : List Mark) (rest : List Token) :
    nextKindPastLines (lineYield lines ++ rest) = nextKindPastLines rest := by
  induction lines with
  | nil => rfl
  | cons m lines ih => exact ih

theorem nextKindPastLines_of_ne {rest : List Token} (h : nextKind rest ≠ .newline) :
    nextKindPastLines rest = nextKind rest := by
  cases rest with
  | nil => rfl
  | cons t rest =>
      have ht : t.kind ≠ .newline := h
      simp [nextKindPastLines, nextKind, ht]

theorem nextKindPastLines_of_line {t : Token} (h : t.kind = .newline) (rest : List Token) :
    nextKindPastLines (t :: rest) = nextKindPastLines rest := by
  simp [nextKindPastLines, h]

theorem Params.length_le_moreYield (more : List (Mark × Mark)) :
    more.length ≤ (moreYield more).length := by
  induction more with
  | nil => exact Nat.le_refl _
  | cons p more ih =>
      show more.length + 1 ≤ (moreYield more).length + 1 + 1
      omega

end Tree

namespace Cursor

variable {c c' : Cursor}

theorem skipNewlines_of_ne (h : c.here.kind ≠ .newline) : c.skipNewlines = c := by
  cases c with
  | mk passed here ahead => cases ahead <;> simp_all [skipNewlines, dropNewlines]

theorem skipNewlines_next (h : c.here.kind = .newline) :
    c.next.skipNewlines = c.skipNewlines := by
  cases c with
  | mk passed here ahead => cases ahead <;> simp_all [skipNewlines, dropNewlines, next]

theorem skipNewlines_of_moves {lines : List Mark} (hm : c.Moves (lineYield lines) c')
    (hk : c'.here.kind ≠ .newline) : c.skipNewlines = c' := by
  induction lines generalizing c with
  | nil =>
      obtain rfl := hm.eq_of_nil
      exact skipNewlines_of_ne hk
  | cons m lines ih =>
      rw [← skipNewlines_next (by rw [hm.here_eq]; rfl)]
      exact ih hm.next

/-- Line breaks are passed over up to a token that is none, if there is one. -/
theorem skipNewlines_moves (c : Cursor) :
    ∃ lines, c.Moves (lineYield lines) c.skipNewlines ∧
      (c.skipNewlines.here.kind = .newline → c.skipNewlines.ahead = []) := by
  obtain ⟨passed, here, ahead⟩ := c
  induction ahead generalizing passed here with
  | nil => exact ⟨[], .refl _, fun _ => rfl⟩
  | cons t rest ih =>
      by_cases hk : here.kind = .newline
      · obtain ⟨m, rfl⟩ := exists_mark hk
        obtain ⟨lines, hm, hend⟩ := ih (m.as .newline :: passed) t
        have hstep : Moves ⟨passed, m.as .newline, t :: rest⟩ [m.as .newline]
          ⟨m.as .newline :: passed, t, rest⟩ := ⟨rfl, rfl⟩
        rw [← skipNewlines_next (c := ⟨passed, m.as .newline, t :: rest⟩) rfl]
        exact ⟨m :: lines, hstep.trans hm, hend⟩
      · rw [skipNewlines_of_ne hk]
        exact ⟨[], .refl _, fun h => absurd h hk⟩

theorem nextKindPastLines_eq_skipNewlines (h : c.skipNewlines.here.kind ≠ .newline) :
    nextKindPastLines c.rest = c.skipNewlines.here.kind := by
  obtain ⟨lines, hm, -⟩ := c.skipNewlines_moves
  rw [hm.rest, nextKindPastLines_lines]
  exact nextKindPastLines_of_ne h

/-- In a sealed list there is a token behind all line breaks. -/
theorem Sealed.skipNewlines_ne (hs : c.Sealed) : c.skipNewlines.here.kind ≠ .newline := by
  obtain ⟨lines, hm, hend⟩ := c.skipNewlines_moves
  intro hk
  have hlast := hm.isSealed hs
  unfold Sealed last at hlast
  rw [hend hk, List.getLastD_nil, hk] at hlast
  cases hlast

end Cursor

/-! ## Reading inside the generator -/

namespace Gen

section

variable {α : Type} {a : α} {m : Read α} {s s' : State} {c : Cursor} {t : Token}
  {kind : TokenKind} {cause : Fault}

theorem lift_move (h : m s.toReading = .ok a (s.toReading.move c)) :
    lift m s = .ok a (s.move c) := by
  unfold lift
  rw [h]
  rfl

theorem of_lift_ok (h : lift m s = .ok a s') :
    ∃ r, m s.toReading = .ok a r ∧ s' = { s with toReading := r } := by
  unfold lift at h
  cases hm : m s.toReading with
  | ok b r =>
      rw [hm] at h
      cases h
      exact ⟨r, rfl, rfl⟩
  | error e r => rw [hm] at h; cases h

theorem advance_of_moves (h : s.cursor.Moves [t] c) :
    (Read.advance : Gen Token) s = .ok t (s.move c) :=
  lift_move (Read.advance_of_moves h)

theorem of_advance_ok (hs : s.cursor.Sealed) (hk : s.cursor.here.kind = kind) (hne : kind ≠ .eof)
    (h : (Read.advance : Gen Token) s = .ok t s') :
    ∃ m : Mark, ∃ c, t = m.as kind ∧ s.cursor.Moves [m.as kind] c ∧ s' = s.move c := by
  obtain ⟨r, hr, rfl⟩ := of_lift_ok h
  obtain ⟨m, c, ht, hm, rfl⟩ := Read.of_advance_ok hs hk hne hr
  exact ⟨m, c, ht, hm, rfl⟩

theorem expect_of_moves (hq : s.debug = false) (h : s.cursor.Moves [t] c) (hk : t.kind = kind) :
    (Read.expect kind cause : Gen Token) s = .ok t (s.move c) :=
  lift_move (Read.expect_of_moves hq h hk)

theorem of_expect_ok (hq : s.debug = false) (hs : s.cursor.Sealed) (hne : kind ≠ .eof)
    (h : (Read.expect kind cause : Gen Token) s = .ok t s') :
    ∃ m : Mark, ∃ c, t = m.as kind ∧ s.cursor.Moves [m.as kind] c ∧ s' = s.move c := by
  obtain ⟨r, hr, rfl⟩ := of_lift_ok h
  obtain ⟨m, c, ht, hm, rfl⟩ := Read.of_expect_ok hq hs hne hr
  exact ⟨m, c, ht, hm, rfl⟩

theorem accept_of_moves (h : s.cursor.Moves [t] c) (hk : t.kind = kind) :
    (Read.accept kind : Gen Bool) s = .ok true (s.move c) :=
  lift_move (Read.accept_of_moves h hk)

theorem accept_of_ne (hk : s.cursor.here.kind ≠ kind) :
    (Read.accept kind : Gen Bool) s = .ok false s :=
  lift_move (c := s.cursor) (Read.accept_of_ne hk)

theorem accept_cases (kind : TokenKind) (hs : s.cursor.Sealed) (hne : kind ≠ .eof) :
    (∃ m : Mark, ∃ c, s.cursor.Moves [m.as kind] c ∧
        (Read.accept kind : Gen Bool) s = .ok true (s.move c)) ∨
      (s.cursor.here.kind ≠ kind ∧ (Read.accept kind : Gen Bool) s = .ok false s) := by
  rcases Read.accept_cases kind (r := s.toReading) hs hne with
    ⟨m, c, hm, -⟩ | ⟨hk, -⟩
  · exact .inl ⟨m, c, hm, accept_of_moves hm rfl⟩
  · exact .inr ⟨hk, accept_of_ne hk⟩

theorem note_quiet (hq : s.debug = false) (e : Event) : (Read.note e : Gen Unit) s = .ok () s :=
  lift_move (c := s.cursor) (Read.note_quiet hq e)

theorem current_eq : (Read.current : Gen Token) s = .ok s.cursor.here s := rfl

theorem remaining_eq : (Read.remaining : Gen Nat) s = .ok s.cursor.ahead.length s := rfl

theorem deeper_eq : write (fun o => { o with indent := o.indent + 1 }) s =
    .ok () (s.indented (s.output.indent + 1)) := rfl

theorem shallower_eq : write (fun o => { o with indent := o.indent - 1 }) s =
    .ok () (s.indented (s.output.indent - 1)) := rfl

theorem remark_eq (r : Remark) (tok : Token) :
    (Read.remark r tok : Gen Unit) s = .ok () (s.after (.remark r tok) s.cursor) := by
  rw [s.after_remark]
  rfl

theorem emit_eq (code : String) :
    emit code s = .ok () (s.after (.line s.output.indent code) s.cursor) := by
  rw [Emission.line, s.after_lines, ← Emission.line, ← s.output.emit_eq_extend]
  rfl

theorem of_expression_ok {depth : Nat} {f : Fragment} (hq : s.debug = false)
    (hs : s.cursor.Sealed) (h : expression depth s = .ok f s') :
    ∃ (e : Expr) (c : Cursor), s.cursor.Moves e.yield c ∧ e.Ends c.rest ∧ e.nesting ≤ depth ∧
      f = e.fragment s.types ∧ s' = s.move c := by
  obtain ⟨r, hr, rfl⟩ := of_lift_ok (m := Read.expression s.types depth) h
  obtain ⟨e, c, hm, hends, hn, rfl, rfl⟩ := (reads_expression s.types depth).sound hq hs hr
  exact ⟨e, c, hm, hends, hn, rfl, rfl⟩

theorem expression_of_moves {depth : Nat} {e : Expr} (hq : s.debug = false)
    (hm : s.cursor.Moves e.yield c) (hends : e.Ends c.rest) (hn : e.nesting ≤ depth) :
    expression depth s = .ok (e.fragment s.types) (s.move c) :=
  lift_move ((reads_expression s.types depth).complete hq hm hends hn)

theorem elseFollows_of_moves {lines : List Mark} (hm : s.cursor.Moves (lineYield lines) c)
    (hk : c.here.kind = .keyword .elseK) :
    (Read.elseFollows : Gen Bool) s = .ok true (s.move c) := by
  have hskip := Cursor.skipNewlines_of_moves hm (by rw [hk]; simp)
  refine lift_move ?_
  show (if s.cursor.skipNewlines.here.kind = .keyword .elseK then _ else _ : Read Bool) _ = _
  rw [if_pos (by rw [hskip]; exact hk), hskip]
  rfl

theorem elseFollows_of_ne (h : nextKindPastLines s.cursor.rest ≠ .keyword .elseK) :
    (Read.elseFollows : Gen Bool) s = .ok false s := by
  have hne : s.cursor.skipNewlines.here.kind ≠ .keyword .elseK := by
    intro hk
    rw [Cursor.nextKindPastLines_eq_skipNewlines (by rw [hk]; simp)] at h
    exact h hk
  refine lift_move (c := s.cursor) ?_
  show (if s.cursor.skipNewlines.here.kind = .keyword .elseK then _ else _ : Read Bool) _ = _
  rw [if_neg hne]
  rfl

theorem elseFollows_cases (hs : s.cursor.Sealed) :
    (∃ (lines : List Mark) (c : Cursor), s.cursor.Moves (lineYield lines) c ∧
        c.here.kind = .keyword .elseK ∧ (Read.elseFollows : Gen Bool) s = .ok true (s.move c)) ∨
      (nextKindPastLines s.cursor.rest ≠ .keyword .elseK ∧
        (Read.elseFollows : Gen Bool) s = .ok false s) := by
  by_cases hk : nextKindPastLines s.cursor.rest = .keyword .elseK
  · obtain ⟨lines, hm, -⟩ := s.cursor.skipNewlines_moves
    rw [Cursor.nextKindPastLines_eq_skipNewlines hs.skipNewlines_ne] at hk
    exact .inl ⟨lines, _, hm, hk, elseFollows_of_moves hm hk⟩
  · exact .inr ⟨hk, elseFollows_of_ne hk⟩

end

/-! ## Parameters -/

section

variable {r r' : Reading} {c : Cursor}

theorem of_parameters_more_ok {k : Nat} {names : List String} (hq : r.debug = false)
    (hs : r.cursor.Sealed) (h : Read.parameters false k r = .ok names r') :
    ∃ (more : List (Mark × Mark)) (c : Cursor), r.cursor.Moves (Params.moreYield more) c ∧
      names = more.map (·.2.value) ∧ r' = r.move c := by
  induction k generalizing r r' names with
  | zero =>
      cases h
      exact ⟨[], r.cursor, .refl _, rfl, rfl⟩
  | succ k ih =>
      obtain ⟨tok, r₀, h₀, h⟩ := of_bind_ok h
      cases h₀
      split at h
      · cases h
        exact ⟨[], r.cursor, .refl _, rfl, rfl⟩
      · obtain ⟨_, r₁, h₁, h⟩ := of_bind_ok h
        obtain ⟨comma, c₁, -, hm₁, rfl⟩ := Read.of_expect_ok hq hs (by decide) h₁
        have hs₁ := hm₁.isSealed hs
        obtain ⟨_, r₂, h₂, h⟩ := of_bind_ok h
        obtain ⟨name, c₂, rfl, hm₂, rfl⟩ :=
          Read.of_expect_ok (r := r.move c₁) hq hs₁ (by decide) h₂
        obtain ⟨names₂, r₃, h₃, h⟩ := of_bind_ok h
        obtain ⟨more, c₃, hm₃, rfl, rfl⟩ := ih (r := r.move c₂) hq (hm₂.isSealed hs₁) h₃
        cases h
        exact ⟨(comma, name) :: more, c₃, hm₁.trans (hm₂.trans hm₃), rfl, rfl⟩

theorem of_parameters_ok {k : Nat} {names : List String} (hq : r.debug = false)
    (hs : r.cursor.Sealed) (h : Read.parameters true k r = .ok names r') :
    ∃ (params : Params) (c : Cursor), r.cursor.Moves params.yield c ∧ names = params.names ∧
      r' = r.move c := by
  cases k with
  | zero =>
      cases h
      exact ⟨.none, r.cursor, .refl _, rfl, rfl⟩
  | succ k =>
      obtain ⟨tok, r₀, h₀, h⟩ := of_bind_ok h
      cases h₀
      split at h
      · cases h
        exact ⟨.none, r.cursor, .refl _, rfl, rfl⟩
      · obtain ⟨_, r₁, h₁, h⟩ := of_bind_ok h
        obtain ⟨name, c₁, rfl, hm₁, rfl⟩ := Read.of_expect_ok hq hs (by decide) h₁
        obtain ⟨names₂, r₂, h₂, h⟩ := of_bind_ok h
        obtain ⟨more, c₂, hm₂, rfl, rfl⟩ :=
          of_parameters_more_ok (r := r.move c₁) hq (hm₁.isSealed hs) h₂
        cases h
        exact ⟨.some name more, c₂, hm₁.trans hm₂, rfl, rfl⟩

theorem parameters_more_of_moves {k : Nat} {more : List (Mark × Mark)} (hq : r.debug = false)
    (hm : r.cursor.Moves (Params.moreYield more) c) (hc : c.here.kind = .rparen)
    (hk : more.length < k) :
    Read.parameters false k r = .ok (more.map (·.2.value)) (r.move c) := by
  induction more generalizing r k with
  | nil =>
      obtain ⟨k, rfl⟩ : ∃ j, k = j + 1 := ⟨k - 1, by omega⟩
      obtain rfl := hm.eq_of_nil
      refine (bind_ok (show Read.current r = .ok r.cursor.here r from rfl)).trans ?_
      rw [if_pos (.inl hc)]
      rfl
  | cons p more ih =>
      rw [List.length_cons] at hk
      obtain ⟨k, rfl⟩ : ∃ j, k = j + 1 := ⟨k - 1, by omega⟩
      obtain ⟨c₁, hm₁, hm⟩ := hm.head_split
      obtain ⟨c₂, hm₂, hm₃⟩ := hm.head_split
      refine (bind_ok (show Read.current r = .ok r.cursor.here r from rfl)).trans ?_
      rw [if_neg (by rw [hm₁.here_eq]; simp)]
      refine (bind_ok (Read.expect_of_moves hq hm₁ rfl)).trans ?_
      refine (bind_ok (Read.expect_of_moves (r := r.move c₁) hq hm₂ rfl)).trans ?_
      exact (bind_ok (ih (r := r.move c₂) hq hm₃ (k := k) (by omega))).trans rfl

theorem parameters_of_moves {k : Nat} {params : Params} (hq : r.debug = false)
    (hm : r.cursor.Moves params.yield c) (hc : c.here.kind = .rparen)
    (hk : params.yield.length < k) :
    Read.parameters true k r = .ok params.names (r.move c) := by
  obtain ⟨k, rfl⟩ : ∃ j, k = j + 1 := ⟨k - 1, by omega⟩
  refine (bind_ok (show Read.current r = .ok r.cursor.here r from rfl)).trans ?_
  cases params with
  | none =>
      obtain rfl := hm.eq_of_nil
      rw [if_pos (.inl hc)]
      rfl
  | some first more =>
      obtain ⟨c₁, hm₁, hm₂⟩ := hm.head_split
      have hlen := Params.length_le_moreYield more
      rw [Params.yield, List.length_cons] at hk
      rw [if_neg (by rw [hm₁.here_eq]; simp)]
      refine (bind_ok (Read.expect_of_moves hq hm₁ rfl)).trans ?_
      exact (bind_ok (parameters_more_of_moves (r := r.move c₁) hq hm₂ hc (by omega))).trans rfl

end

end Gen

end StageZero
