import StageZero.Proofs.Statements

/-!
# Runs are read as programs

A run is a loop over the top level, where the tokens between statements are
line breaks and closing braces that close nothing. What the loop does at one
place is one lemma, `loop_top`: at a line break, a brace or a statement it goes
on behind it with what that writes, and with a count that is still large
enough. Both directions of the reading follow from it, and so will the
comparison of a run with a longer one.

`run_of_program` and `of_run_ok` are the two directions. Between them they say
that a run succeeds exactly on the yield of a greedy program that is not nested
too deeply.
-/

namespace StageZero

open StageZero.Tree

theorem Tree.Top.yield_ne_nil (t : Top) : t.yield ≠ [] := by
  cases t with
  | line m => exact List.cons_ne_nil _ _
  | stray m => exact List.cons_ne_nil _ _
  | stmt t => exact t.yield_ne_nil

theorem Tree.fits_congr {ts us : List Token} (h : SameAhead ts us) {p : Program}
    (hf : Fits ts p) : Fits us p := by
  induction p with
  | nil => trivial
  | cons t p ih =>
      refine ⟨?_, ih hf.2⟩
      cases t with
      | line m => trivial
      | stray m => trivial
      | stmt t => exact Stmt.fits_congr (h.append (yield p)) hf.1

/-- What stands at the top level stands between two cursors, as a run takes it. -/
structure TopAt (depth : Nat) (c : Cursor) (t : Top) (c' : Cursor) : Prop where
  moves : c.Moves t.yield c'
  fits : t.Fits c'.rest
  nesting : t.nesting ≤ depth

/-- A program stands between a cursor and the end of input. -/
structure ProgramAt (depth : Nat) (c : Cursor) (p : Program) (c' : Cursor) : Prop where
  moves : c.Moves (yield p) c'
  ends : c'.here.kind = .eof
  fits : Fits c'.rest p
  nesting : nesting p ≤ depth

namespace Gen

/-- The loop of a run. -/
abbrev loop (depth : Nat) : Nat → Gen Unit :=
  repeatUntil [.eof] (topLevel depth)

section

variable {depth : Nat} {s s' : State} {c : Cursor} {t : Top} {n : Nat}

theorem topLevel_of_ne (h : s.cursor.here.kind ≠ .rbrace) :
    topLevel depth s = statement depth s := by
  refine (bind_ok (check_eq _)).trans ?_
  exact congrFun (if_neg (by exact fun hd => h (of_decide_eq_true hd))) s

theorem topLevel_stray {m : Mark} (hm : s.cursor.Moves [m.as .rbrace] c) :
    topLevel depth s = .ok () (s.after (.remark .strayBrace (m.as .rbrace)) c) := by
  refine (bind_ok (check_eq _)).trans ?_
  rw [if_pos (by exact decide_eq_true (by rw [hm.here_eq]; rfl))]
  refine (bind_ok (advance_of_moves hm)).trans ?_
  rw [remark_eq]
  rfl

theorem loop_of_eof (h : s.cursor.here.kind = .eof) (n : Nat) : loop depth (n + 1) s = .ok () s :=
  repeatUntil_of_mem (by rw [h]; decide) n

theorem loop_of_ne (h : s.cursor.here.kind ≠ .eof) (n : Nat) :
    loop depth (n + 1) s = (topLevel depth >>= fun _ => loop depth n) s :=
  repeatUntil_of_notMem (by simpa using h) n

theorem loop_line {m : Mark} (hd : 0 < depth) (hm : s.cursor.Moves [m.as .newline] c) (n : Nat) :
    ∃ k, n ≤ k ∧ loop depth (n + 1) s = loop depth k (s.move c) := by
  have hl : s.cursor.here.kind = .newline := by rw [hm.here_eq]; rfl
  have hstep : topLevel depth s = statement depth (s.move c) := by
    rw [topLevel_of_ne (by rw [hl]; simp), (generates_statement depth).line hd hl, hm.next_eq]
  by_cases hstop : c.here.kind = .rbrace ∨ c.here.kind = .eof
  · -- the search for a statement ends here, and this round has done nothing more
    have hdone := (generates_statement depth).stop (s := s.move c) hd hstop
    refine ⟨n, Nat.le_refl n, (loop_of_ne (by rw [hl]; simp) n).trans ?_⟩
    exact bind_ok (hstep.trans hdone)
  · have hbrace : c.here.kind ≠ .rbrace := fun hk => hstop (.inl hk)
    have hend : c.here.kind ≠ .eof := fun hk => hstop (.inr hk)
    refine ⟨n + 1, Nat.le_succ n, (loop_of_ne (by rw [hl]; simp) n).trans ?_⟩
    rw [loop_of_ne (s := s.move c) hend]
    show EStateM.bind _ _ s = EStateM.bind _ _ _
    unfold EStateM.bind
    rw [hstep, topLevel_of_ne (s := s.move c) hbrace]

/-- The loop goes on behind what stands at the cursor. -/
theorem loop_top (hq : s.debug = false) (hi : s.output.indent = 1)
    (hat : TopAt depth s.cursor t c) (n : Nat) :
    ∃ k, n ≤ k ∧ loop depth (n + 1) s = loop depth k (s.after (t.emission s.types) c) := by
  cases t with
  | line m =>
      obtain ⟨k, hk, heq⟩ := loop_line hat.nesting hat.moves n
      refine ⟨k, hk, heq.trans ?_⟩
      rw [Top.emission, s.after_empty]
  | stray m =>
      have hhere : s.cursor.here.kind = .rbrace := by rw [hat.moves.here_eq]; rfl
      refine ⟨n, Nat.le_refl n, (loop_of_ne (by rw [hhere]; simp) n).trans ?_⟩
      exact bind_ok (topLevel_stray hat.moves)
  | stmt t =>
      have hhere : s.cursor.here.kind = nextKind t.yield := by
        rw [← nextKind_rest, hat.moves.rest]
        exact nextKind_append t.yield_ne_nil _
      have hb := t.nextKind_yield
      rw [← hhere] at hb
      have hwrite := (generates_statement depth).complete hq
        (StmtAt.mk hat.moves hat.fits hat.nesting)
      rw [← topLevel_of_ne (by intro hk; rw [hk] at hb; cases hb), hi] at hwrite
      refine ⟨n, Nat.le_refl n, (loop_of_ne (by intro hk; rw [hk] at hb; cases hb) n).trans ?_⟩
      exact bind_ok hwrite

/-- Where a round of the loop succeeds, something stands at the cursor. -/
theorem exists_topAt (hq : s.debug = false) (hs : s.cursor.Sealed)
    (hk : s.cursor.here.kind ≠ .eof) (h : topLevel depth s = .ok () s') :
    ∃ t c, TopAt depth s.cursor t c := by
  have hnext := hs.moves_next hk
  by_cases hbrace : s.cursor.here.kind = .rbrace
  · obtain ⟨m, hm⟩ := exists_mark hbrace
    rw [hm] at hnext
    exact ⟨.stray m, _, hnext, trivial, Nat.zero_le _⟩
  rw [topLevel_of_ne hbrace] at h
  by_cases hl : s.cursor.here.kind = .newline
  · obtain ⟨m, hm⟩ := exists_mark hl
    rw [hm] at hnext
    exact ⟨.line m, _, hnext, trivial, (generates_statement depth).pos h⟩
  · have hb : s.cursor.here.kind.betweenStatements = false := by
      cases hkind : s.cursor.here.kind <;> simp_all [TokenKind.betweenStatements]
    obtain ⟨t, c, hat, -⟩ := (generates_statement depth).sound hq hs hb h
    exact ⟨.stmt t, c, hat.moves, hat.fits, hat.nesting⟩

theorem of_loop_ok (hq : s.debug = false) (hs : s.cursor.Sealed) (hi : s.output.indent = 1)
    (hn : s.cursor.ahead.length < n) (h : loop depth n s = .ok () s') :
    ∃ (p : Program) (c : Cursor), ProgramAt depth s.cursor p c ∧
      s' = s.after (emission s.types p) c := by
  induction hlen : s.cursor.ahead.length using Nat.strongRecOn generalizing s n with
  | ind len ih =>
      obtain ⟨n, rfl⟩ : ∃ k, n = k + 1 := ⟨n - 1, by omega⟩
      by_cases hk : s.cursor.here.kind = .eof
      · rw [loop_of_eof hk] at h
        cases h
        exact ⟨[], _, ⟨.refl _, hk, trivial, Nat.zero_le _⟩, (State.after_empty _ _).symm⟩
      · have hround := h
        rw [loop_of_ne hk] at hround
        obtain ⟨_, s₁, h₁, -⟩ := of_bind_ok hround
        obtain ⟨t, c₁, hat⟩ := exists_topAt hq hs hk h₁
        obtain ⟨k, hnk, heq⟩ := loop_top hq hi hat n
        have hlen₁ := hat.moves.length_ahead
        have hpos := List.length_pos_iff.2 t.yield_ne_nil
        obtain ⟨p, c, hp, rfl⟩ :=
          ih c₁.ahead.length (by omega) (s := s.after _ c₁) (n := k) hq
            (hat.moves.isSealed hs) (by rw [State.indent_after, hi])
            (by rw [State.cursor_after]; omega) (heq ▸ h) rfl
        refine ⟨t :: p, c, ⟨hat.moves.trans hp.moves, hp.ends, ⟨?_, hp.fits⟩,
          Nat.max_le.2 ⟨hat.nesting, hp.nesting⟩⟩, ?_⟩
        · rw [← hp.moves.rest]
          exact hat.fits
        · rw [State.after_after]
          rfl

/-- The loop goes on behind a program, if it is not the whole of the input. -/
theorem loop_of_program (hq : s.debug = false) (hi : s.output.indent = 1) {p : Program}
    (hm : s.cursor.Moves (yield p) c) (hf : Fits c.rest p) (hnest : nesting p ≤ depth)
    (hn : s.cursor.ahead.length < n) :
    ∃ k, c.ahead.length < k ∧ loop depth n s = loop depth k (s.after (emission s.types p) c) := by
  induction p generalizing s n with
  | nil =>
      obtain rfl := hm.eq_of_nil
      refine ⟨n, hn, ?_⟩
      rw [emission, s.after_empty]
      rfl
  | cons t p ih =>
      obtain ⟨n, rfl⟩ : ∃ k, n = k + 1 := ⟨n - 1, by omega⟩
      obtain ⟨c₁, hm₁, hm₂⟩ := hm.split
      have hnest := Nat.max_le.1 hnest
      have hat : TopAt depth s.cursor t c₁ := ⟨hm₁, by rw [hm₂.rest]; exact hf.1, hnest.1⟩
      have hlen := hm₁.length_ahead
      have hpos := List.length_pos_iff.2 t.yield_ne_nil
      obtain ⟨k, hk, heq⟩ := loop_top hq hi hat n
      obtain ⟨k', hk', heq'⟩ :=
        ih (s := s.after (t.emission s.types) c₁) (n := k) hq (by rw [State.indent_after, hi]) hm₂
          hf.2 hnest.2 (by rw [State.cursor_after]; omega)
      refine ⟨k', hk', heq.trans (heq'.trans ?_)⟩
      rw [State.after_after]
      rfl

/-- A run that succeeds has read a program and written its emission. -/
theorem of_run_ok (hq : s.debug = false) (hs : s.cursor.Sealed) (hi : s.output.indent = 1)
    (h : run depth s = .ok () s') :
    ∃ (p : Program) (c : Cursor), ProgramAt depth s.cursor p c ∧
      s' = s.after (emission s.types p) c := by
  replace h := (bind_ok remaining_eq).symm.trans h
  exact of_loop_ok hq hs hi (Nat.lt_succ_self _) h

/-- A run over a program succeeds and writes the emission. -/
theorem run_of_program (hq : s.debug = false) (hi : s.output.indent = 1) {p : Program}
    (hp : ProgramAt depth s.cursor p c) :
    run depth s = .ok () (s.after (emission s.types p) c) := by
  refine (bind_ok remaining_eq).trans ?_
  obtain ⟨k, hk, heq⟩ := loop_of_program (n := s.cursor.ahead.length + 1) hq hi hp.moves hp.fits
    hp.nesting (Nat.lt_succ_self _)
  obtain ⟨k, rfl⟩ : ∃ j, k = j + 1 := ⟨k - 1, by omega⟩
  exact heq.trans (loop_of_eof (s := s.after _ c) hp.ends k)

end

end Gen

end StageZero
