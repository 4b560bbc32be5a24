import StageZero.Proofs.Steps

/-!
# Blocks are read as trees

As with expressions, in both directions: a statement is generated successfully
exactly when the tokens under the cursor are the yield of a greedy tree that is
not nested too deeply, and what the generator has done then is put the tree's
emission behind its output and move over the yield. That the depth of the lines
and the stack of open bodies are back where they were is part of this, because
an emission does not touch them.

`Generates` is the statement for one level of depth, and this file lifts it to
blocks and to what is made of blocks. A block is read by a loop over statements
of the level below, and two things come together there. A line break under the
cursor can be dropped without changing what the loop does, so the loop follows
the items of the block one by one. And each round reads a token, so that the
count of the loop never ends it.
-/

namespace StageZero

open StageZero.Tree

/-! ## What stands before and behind a statement -/

/-- Kinds that stand between statements and belong to none. -/
def TokenKind.betweenStatements : TokenKind → Bool
  | .newline | .rbrace | .eof => true
  | _ => false

namespace Tree

theorem Stmt.yield_ne_nil (t : Stmt) : t.yield ≠ [] := by
  cases t <;> simp [Stmt.yield]

theorem Stmt.one_le_nesting (t : Stmt) : 1 ≤ t.nesting := by
  have he : ∀ e : Expr, 1 ≤ e.nesting := by
    intro e
    cases e with
    | nil => exact Nat.le_refl _
    | cons p e => exact Nat.le_trans (Nat.succ_le_succ (Nat.zero_le _)) (Nat.le_max_left _ _)
  cases t with
  | declare word name equal value => exact he value
  | print word value => exact he value
  | loop word test body => exact Nat.le_trans (he _) (Nat.le_max_left _ _)
  | branch word test body links other =>
      exact Nat.le_trans (he _) (Nat.le_trans (Nat.le_max_left _ _) (Nat.le_max_left _ _))
  | function word name opening params closing body => exact Nat.succ_le_succ (Nat.zero_le _)
  | give word value => exact he value
  | writeFile word opening name comma content closing =>
      exact Nat.le_trans (he name) (Nat.le_max_left _ _)
  | readFile word opening name closing => exact he name
  | assign name equal value => exact he value
  | call name opening args closing => exact Nat.le_max_left _ _
  | idle name => exact Nat.le_refl _
  | skipped tok h => exact Nat.le_refl _

/-- A statement begins with no token of those that stand between statements. -/
theorem Stmt.nextKind_yield (t : Stmt) : (nextKind t.yield).betweenStatements = false := by
  cases t with
  | skipped tok h =>
      show tok.kind.betweenStatements = false
      cases hk : tok.kind <;> simp_all [TokenKind.skippable, TokenKind.betweenStatements]
  | _ => rfl

/-- Two lists that look the same to a statement before them. -/
structure SameAhead (ts us : List Token) : Prop where
  next : nextKind ts = nextKind us
  pastLines : nextKindPastLines ts = nextKindPastLines us

theorem SameAhead.symm (h : SameAhead ts us) : SameAhead us ts :=
  ⟨h.next.symm, h.pastLines.symm⟩

theorem SameAhead.cons (t : Token) (h : SameAhead ts us) : SameAhead (t :: ts) (t :: us) := by
  refine ⟨rfl, ?_⟩
  by_cases ht : t.kind = .newline
  · rw [nextKindPastLines_of_line ht, nextKindPastLines_of_line ht, h.pastLines]
  · rw [nextKindPastLines_of_ne (by exact ht), nextKindPastLines_of_ne (by exact ht)]
    rfl

theorem SameAhead.append (ys : List Token) (h : SameAhead ts us) :
    SameAhead (ys ++ ts) (ys ++ us) := by
  induction ys with
  | nil => exact h
  | cons t ys ih => exact ih.cons t

/-- The second list offers a statement before it nothing that the first does
not: no part of an expression, no equals sign and no alternative. -/
structure NoMoreAhead (ts us : List Token) : Prop where
  next : (nextKind us).startsPart = true ∨ nextKind us = .equal → nextKind us = nextKind ts
  pastLines : nextKindPastLines us = .keyword .elseK → nextKindPastLines ts = .keyword .elseK

theorem SameAhead.noMore (h : SameAhead ts us) : NoMoreAhead ts us :=
  ⟨fun _ => h.next.symm, h.pastLines.trans⟩

theorem Expr.Ends.mono {e : Expr} (h : NoMoreAhead ts us) (he : e.Ends ts) : e.Ends us := by
  refine ⟨he.1, Bool.eq_false_iff.2 fun hs => ?_⟩
  rw [h.next (.inl hs), he.2] at hs
  cases hs

theorem Stmt.fits_mono {t : Stmt} (h : NoMoreAhead ts us) (hf : t.Fits ts) : t.Fits us := by
  cases t with
  | declare word name equal value => exact Expr.Ends.mono h hf
  | print word value => exact Expr.Ends.mono h hf
  | branch word test body links other =>
      refine ⟨hf.1, hf.2.1, hf.2.2.1, ?_⟩
      cases other with
      | none => exact fun he => hf.2.2.2 (h.pastLines he)
      | some lines word body => exact hf.2.2.2
  | give word value => exact Expr.Ends.mono h hf
  | assign name equal value => exact Expr.Ends.mono h hf
  | idle name =>
      refine ⟨fun hk => hf.1 ?_, fun hk => hf.2 ?_⟩
      · rw [← h.next (.inr hk), hk]
      · rw [← h.next (.inl (by rw [hk]; rfl)), hk]
  | _ => exact hf

theorem Stmt.fits_congr {t : Stmt} (h : SameAhead ts us) (hf : t.Fits ts) : t.Fits us :=
  Stmt.fits_mono h.noMore hf

theorem Items.fits_congr (h : SameAhead ts us) : (items : Items) → items.Fits ts → items.Fits us
  | .nil, _ => trivial
  | .line _ rest, hf => fits_congr h rest hf
  | .stmt _ rest, hf => ⟨Stmt.fits_congr (h.append rest.yield) hf.1, fits_congr h rest hf.2⟩

theorem sameAhead_rbrace (m : Mark) (ts : List Token) :
    SameAhead (m.as .rbrace :: ts) [m.as .rbrace] := ⟨rfl, rfl⟩

end Tree

/-- A statement stands between two cursors as the greedy reader takes it. -/
structure StmtAt (depth : Nat) (c : Cursor) (t : Stmt) (c' : Cursor) : Prop where
  moves : c.Moves t.yield c'
  fits : t.Fits c'.rest
  nesting : t.nesting ≤ depth

/-- From one state to the other a statement has been written. -/
def Written (depth : Nat) (s s' : State) : Prop :=
  ∃ t c, StmtAt depth s.cursor t c ∧ s' = s.after (t.emission s.types s.output.indent) c

/-- What a generator of statements of a given depth does: at a statement it
writes it, a line break before it makes no difference, and where nothing stands
it does nothing. With no depth at all it does not succeed. -/
structure Generates (depth : Nat) (m : Gen Unit) : Prop where
  sound : ∀ {s s' : State}, s.debug = false → s.cursor.Sealed →
    s.cursor.here.kind.betweenStatements = false → m s = .ok () s' → Written depth s s'
  complete : ∀ {s : State} {t : Stmt} {c : Cursor}, s.debug = false →
    StmtAt depth s.cursor t c → m s = .ok () (s.after (t.emission s.types s.output.indent) c)
  line : ∀ {s : State}, 0 < depth → s.cursor.here.kind = .newline →
    m s = m (s.move s.cursor.next)
  stop : ∀ {s : State}, 0 < depth →
    s.cursor.here.kind = .rbrace ∨ s.cursor.here.kind = .eof → m s = .ok () s
  pos : ∀ {s s' : State}, m s = .ok () s' → 0 < depth

/-! ## Blocks -/

namespace Gen

section

variable {depth : Nat} {inner : Gen Unit} {s s' : State} {c : Cursor} {stops : List TokenKind}

theorem repeatUntil_of_mem (h : s.cursor.here.kind ∈ stops) (n : Nat) :
    repeatUntil stops inner (n + 1) s = .ok () s := by
  refine (bind_ok current_eq).trans ?_
  rw [if_pos h]
  rfl

theorem repeatUntil_of_notMem (h : s.cursor.here.kind ∉ stops) (n : Nat) :
    repeatUntil stops inner (n + 1) s = (inner >>= fun _ => repeatUntil stops inner n) s := by
  refine (bind_ok current_eq).trans ?_
  rw [if_neg h]

/-- A line break at the head of a block can be dropped. -/
theorem repeatUntil_line (hg : Generates depth inner) (hd : 0 < depth)
    (hl : s.cursor.here.kind = .newline) (n : Nat) :
    ∃ k, n ≤ k ∧ repeatUntil [.rbrace, .eof] inner (n + 1) s =
      repeatUntil [.rbrace, .eof] inner k (s.move s.cursor.next) := by
  have hstep : repeatUntil [.rbrace, .eof] inner (n + 1) s =
      (inner >>= fun _ => repeatUntil [.rbrace, .eof] inner n) s :=
    repeatUntil_of_notMem (by rw [hl]; decide) n
  have hdrop : (inner >>= fun _ => repeatUntil [.rbrace, .eof] inner n) s =
      (inner >>= fun _ => repeatUntil [.rbrace, .eof] inner n) (s.move s.cursor.next) := by
    show EStateM.bind inner _ s = EStateM.bind inner _ _
    unfold EStateM.bind
    rw [hg.line hd hl]
  by_cases hmem : s.cursor.next.here.kind ∈ [TokenKind.rbrace, .eof]
  · -- The block ends here: the statement behind the line break does nothing.
    have hstop := hg.stop (s := s.move s.cursor.next) hd (by simpa using hmem)
    exact ⟨n, Nat.le_refl n, hstep.trans (hdrop.trans (bind_ok hstop))⟩
  · refine ⟨n + 1, Nat.le_succ n, hstep.trans (hdrop.trans ?_)⟩
    exact (repeatUntil_of_notMem (s := s.move s.cursor.next) hmem n).symm

theorem of_repeatUntil_ok (hg : Generates depth inner) {n : Nat} (hq : s.debug = false)
    (hs : s.cursor.Sealed) (hn : s.cursor.ahead.length < n)
    (h : repeatUntil [.rbrace, .eof] inner n s = .ok () s') :
    ∃ (items : Items) (c : Cursor), s.cursor.Moves items.yield c ∧ items.Fits c.rest ∧
      items.nesting ≤ depth ∧ s' = s.after (items.emission s.types s.output.indent) c := by
  induction hlen : s.cursor.ahead.length using Nat.strongRecOn generalizing s n with
  | ind len ih =>
      obtain ⟨n, rfl⟩ : ∃ k, n = k + 1 := ⟨n - 1, by omega⟩
      by_cases hmem : s.cursor.here.kind ∈ [TokenKind.rbrace, .eof]
      · rw [repeatUntil_of_mem hmem] at h
        cases h
        exact ⟨.nil, _, .refl _, trivial, Nat.zero_le _, (State.after_empty _ _).symm⟩
      have hne : s.cursor.here.kind ≠ .eof := fun hk => hmem (by rw [hk]; decide)
      have hnext := hs.moves_next hne
      have hahead := hnext.length_ahead
      rw [List.length_singleton] at hahead
      have hrun := h
      rw [repeatUntil_of_notMem hmem] at h
      obtain ⟨_, s₁, h₁, h⟩ := of_bind_ok h
      by_cases hl : s.cursor.here.kind = .newline
      · obtain ⟨m, hm⟩ := exists_mark hl
        obtain ⟨k, hk, heq⟩ := repeatUntil_line hg (hg.pos h₁) hl n
        rw [heq] at hrun
        obtain ⟨items, c, hm₂, hf, hnest, rfl⟩ :=
          ih s.cursor.next.ahead.length (by omega) (s := s.move s.cursor.next) hq
            (hnext.isSealed hs)
            (by rw [State.cursor_move]; omega) hrun rfl
        refine ⟨.line m items, c, ?_, hf, Nat.max_le.2 ⟨hg.pos h₁, hnest⟩, rfl⟩
        rw [hm] at hnext
        exact hnext.trans hm₂
      · have hb : s.cursor.here.kind.betweenStatements = false := by
          cases hk : s.cursor.here.kind <;> simp_all [TokenKind.betweenStatements]
        obtain ⟨t, c₁, hat, rfl⟩ := hg.sound hq hs hb h₁
        have hlen₁ := hat.moves.length_ahead
        have hpos := List.length_pos_iff.2 t.yield_ne_nil
        obtain ⟨items, c, hm₂, hf, hnest, rfl⟩ :=
          ih c₁.ahead.length (by omega) (s := s.after _ c₁) (n := n) hq (hat.moves.isSealed hs)
            (by rw [State.cursor_after]; omega) h rfl
        refine ⟨.stmt t items, c, hat.moves.trans hm₂, ⟨?_, hf⟩,
          Nat.max_le.2 ⟨hat.nesting, hnest⟩, ?_⟩
        · rw [← hm₂.rest]
          exact hat.fits
        · rw [State.after_after, State.indent_after]
          rfl

theorem repeatUntil_of_items (hg : Generates depth inner) :
    (items : Items) → ∀ {s : State} {c : Cursor} {n : Nat}, s.debug = false →
      s.cursor.Moves items.yield c → items.Fits c.rest → items.nesting ≤ depth →
      c.here.kind = .rbrace → items.yield.length < n →
      repeatUntil [.rbrace, .eof] inner n s =
        .ok () (s.after (items.emission s.types s.output.indent) c)
  | .nil, s, c, n, _, hm, _, _, hc, hn => by
      obtain ⟨n, rfl⟩ : ∃ k, n = k + 1 := ⟨n - 1, by omega⟩
      obtain rfl := hm.eq_of_nil
      rw [repeatUntil_of_mem (by rw [hc]; decide), Items.emission, s.after_empty]
      rfl
  | .line m rest, s, c, n, hq, hm, hf, hnest, hc, hn => by
      obtain ⟨n, rfl⟩ : ∃ k, n = k + 1 := ⟨n - 1, by omega⟩
      rw [Items.yield, List.length_cons] at hn
      have hnest := Nat.max_le.1 hnest
      obtain ⟨k, hk, heq⟩ :=
        repeatUntil_line (s := s) hg hnest.1 (by rw [hm.here_eq]; rfl) n
      rw [heq]
      exact repeatUntil_of_items hg rest (s := s.move s.cursor.next) hq hm.next hf hnest.2 hc
        (by omega)
  | .stmt t rest, s, c, n, hq, hm, hf, hnest, hc, hn => by
      obtain ⟨n, rfl⟩ : ∃ k, n = k + 1 := ⟨n - 1, by omega⟩
      obtain ⟨c₁, hm₁, hm₂⟩ := hm.split
      have hnest := Nat.max_le.1 hnest
      have hpos := List.length_pos_iff.2 t.yield_ne_nil
      rw [Items.yield, List.length_append] at hn
      have hat : StmtAt depth s.cursor t c₁ := ⟨hm₁, hm₂.rest ▸ hf.1, hnest.1⟩
      have hhere : s.cursor.here.kind = nextKind t.yield := by
        rw [← nextKind_rest, hm₁.rest, nextKind_append t.yield_ne_nil]
      have hb := t.nextKind_yield
      rw [← hhere] at hb
      rw [repeatUntil_of_notMem (by
        intro hmem
        simp only [List.mem_cons, List.not_mem_nil, or_false] at hmem
        rcases hmem with hk | hk <;> rw [hk] at hb <;> cases hb)]
      refine (bind_ok (hg.complete hq hat)).trans ?_
      rw [repeatUntil_of_items hg rest (s := s.after _ c₁) hq hm₂ hf.2 hnest.2 hc (by omega),
        State.after_after, State.indent_after]
      rfl

theorem of_block_ok (hg : Generates depth inner) {place : String} (hq : s.debug = false)
    (hs : s.cursor.Sealed) (h : block inner place s = .ok () s') :
    ∃ (b : Block) (c : Cursor), s.cursor.Moves b.yield c ∧ b.Fits ∧ b.nesting ≤ depth ∧
      s' = s.after (b.emission s.types (s.output.indent + 1)) c := by
  obtain ⟨_, s₁, h₁, h⟩ := of_bind_ok h
  obtain ⟨opening, c₁, -, hm₁, rfl⟩ := of_expect_ok hq hs (by decide) h₁
  have hs₁ := hm₁.isSealed hs
  replace h := (bind_ok deeper_eq).symm.trans h
  replace h := (bind_ok remaining_eq).symm.trans h
  obtain ⟨_, s₂, h₂, h⟩ := of_bind_ok h
  obtain ⟨items, c₂, hm₂, hf, hn, rfl⟩ :=
    of_repeatUntil_ok hg (s := (s.move c₁).indented (s.output.indent + 1)) hq hs₁
      (Nat.lt_succ_self _) h₂
  replace h := (bind_ok shallower_eq).symm.trans h
  rw [State.indent_after, State.indent_indented, Nat.add_sub_cancel] at h
  have hback := (s.move c₁).indented_after_indented
    (items.emission s.types (s.output.indent + 1)) c₂ (s.output.indent + 1)
  obtain ⟨_, s₃, h₃, h⟩ := of_bind_ok (hback ▸ h)
  obtain ⟨closing, c₃, -, hm₃, rfl⟩ := of_expect_ok (by exact hq) (hm₂.isSealed hs₁) (by decide) h₃
  cases h
  refine ⟨.mk opening items closing, c₃, hm₁.trans (hm₂.trans hm₃), ?_, hn, rfl⟩
  refine Items.fits_congr ?_ items hf
  rw [show c₂.rest = _ from hm₃.rest]
  exact sameAhead_rbrace closing c₃.rest

theorem block_of_moves (hg : Generates depth inner) {place : String} {b : Block}
    (hq : s.debug = false) (hm : s.cursor.Moves b.yield c) (hf : b.Fits) (hn : b.nesting ≤ depth) :
    block inner place s = .ok () (s.after (b.emission s.types (s.output.indent + 1)) c) := by
  cases b with
  | mk opening items closing =>
      obtain ⟨c₁, hm₁, hm'⟩ := hm.head_split
      obtain ⟨c₂, hm₂, hm₃⟩ := hm'.split
      have hfits : items.Fits c₂.rest := by
        refine Items.fits_congr ?_ items hf
        rw [hm₃.rest]
        exact ⟨rfl, rfl⟩
      have hlen := hm₂.length_ahead
      have hitems := repeatUntil_of_items hg items
        (s := (s.move c₁).indented (s.output.indent + 1)) (n := c₁.ahead.length + 1) hq hm₂ hfits
        hn (by rw [hm₃.here_eq]; rfl) (by omega)
      have hback := (s.move c₁).indented_after_indented
        (items.emission s.types (s.output.indent + 1)) c₂ (s.output.indent + 1)
      refine (bind_ok (expect_of_moves hq hm₁ rfl)).trans ?_
      refine (bind_ok deeper_eq).trans ((bind_ok remaining_eq).trans ?_)
      refine (bind_ok hitems).trans ((bind_ok shallower_eq).trans ?_)
      rw [State.indent_after, State.indent_indented, Nat.add_sub_cancel]
      refine (congrArg _ hback).trans ?_
      exact (bind_ok (expect_of_moves (s := s.after _ c₂) hq hm₃ rfl)).trans rfl

end

/-! ## Conditions with blocks -/

/-- A condition and a block behind it stand between two cursors, as a loop or a
branch one level above the statements of the block takes them. -/
structure GuardAt (depth : Nat) (c : Cursor) (test : Test) (body : Block) (c' : Cursor) :
    Prop where
  moves : c.Moves (test.yield ++ body.yield) c'
  proper : test.value.Proper
  deep : test.value.nesting ≤ depth + 1
  fits : body.Fits
  nesting : body.nesting ≤ depth

section

variable {depth : Nat} {inner : Gen Unit} {s s' : State} {c c₁ : Cursor} {word : Keyword}
  {head place : String}

theorem enclosed_line (head code : String) :
    head ++ " (" ++ code ++ ") \x7b" = head ++ " (" ++ code ++ ")" ++ " \x7b" := by
  simp only [String.append_assoc]
  rfl

/-- A line, a block and a line are one enclosed emission. -/
theorem after_enclosed (head : String) (b : Block) (c₁ c₂ c₃ : Cursor) :
    let s₁ := (s.move c₁).after (.line (s.move c₁).output.indent (head ++ " \x7b")) c₁
    let s₂ := s₁.after (b.emission s₁.types (s₁.output.indent + 1)) c₂
    s₂.after (.line s₂.output.indent "\x7d") c₃ =
      s.after (.enclosed s.output.indent head (b.emission s.types (s.output.indent + 1))) c₃ := by
  simp only [State.after_after, State.move_after, State.indent_after, State.types_after,
    State.output_move, Emission.declared_line, TypeTable.declareAll_nil, Emission.enclosed]

theorem of_guarded_ok (hg : Generates depth inner) (hq : s.debug = false) (hs : s.cursor.Sealed)
    (hk : s.cursor.here.kind = .keyword word)
    (h : guarded (expression (depth + 1)) inner head place s = .ok () s') :
    ∃ (m : Mark) (test : Test) (body : Block) (c₁ c : Cursor),
      s.cursor.Moves [m.as (.keyword word)] c₁ ∧ GuardAt depth c₁ test body c ∧
      s' = s.after (.enclosed s.output.indent (test.head s.types head)
        (body.emission s.types (s.output.indent + 1))) c := by
  obtain ⟨tok, s₁, h₁, h⟩ := of_bind_ok h
  obtain ⟨m, c₁, rfl, hm₁, rfl⟩ := of_advance_ok hs hk (by simp) h₁
  have hs₁ := hm₁.isSealed hs
  obtain ⟨code, s₂, h₂, h⟩ := of_bind_ok h
  -- the condition
  obtain ⟨_, s₃, h₃, h₂⟩ := of_bind_ok h₂
  obtain ⟨opening, c₂, -, hm₂, rfl⟩ := of_expect_ok (s := s.move c₁) hq hs₁ (by decide) h₃
  have hs₂ := hm₂.isSealed hs₁
  obtain ⟨f, s₄, h₄, h₂⟩ := of_bind_ok h₂
  obtain ⟨e, c₃, hm₃, hends, hn, rfl, rfl⟩ := of_expression_ok (s := s.move c₂) hq hs₂ h₄
  have hs₃ := hm₃.isSealed hs₂
  obtain ⟨_, s₅, h₅, h₂⟩ := of_bind_ok h₂
  obtain ⟨closing, c₄, -, hm₄, rfl⟩ := of_expect_ok (s := s.move c₃) hq hs₃ (by decide) h₅
  cases h₂
  -- the block between its two lines
  replace h := (bind_ok (emit_eq _)).symm.trans h
  obtain ⟨_, s₆, h₆, h⟩ := of_bind_ok h
  obtain ⟨b, c₅, hm₅, hf, hnb, rfl⟩ :=
    of_block_ok hg (s := (s.move c₄).after _ c₄) hq (hm₄.isSealed hs₃) h₆
  rw [emit_eq] at h
  cases h
  let test : Test := ⟨opening, e, closing⟩
  refine ⟨m, test, b, c₁, c₅, hm₁, ⟨?_, hends.1, hn, hf, hnb⟩, ?_⟩
  · exact (hm₂.trans (hm₃.trans hm₄)).trans hm₅
  · rw [enclosed_line]
    exact after_enclosed (test.head s.types head) b c₄ c₅ c₅

theorem guarded_of_moves (hg : Generates depth inner) {m : Mark} {test : Test} {body : Block}
    (hq : s.debug = false) (hm : s.cursor.Moves [m.as (.keyword word)] c₁)
    (hat : GuardAt depth c₁ test body c) :
    guarded (expression (depth + 1)) inner head place s =
      .ok () (s.after (.enclosed s.output.indent (test.head s.types head)
        (body.emission s.types (s.output.indent + 1))) c) := by
  obtain ⟨c₅, hmt, hmb⟩ := hat.moves.split
  obtain ⟨c₂, hm₂, hmt⟩ := hmt.head_split
  obtain ⟨c₃, hm₃, hm₄⟩ := hmt.split
  have hends : test.value.Ends c₃.rest := ⟨hat.proper, by rw [nextKind_rest, hm₄.here_eq]; rfl⟩
  have hcond : condition (expression (depth + 1)) (m.as (.keyword word)) (s.move c₁) =
      .ok (test.value.code s.types) (s.move c₅) := by
    refine (bind_ok (expect_of_moves (s := s.move c₁) hq hm₂ rfl)).trans ?_
    refine (bind_ok (expression_of_moves (s := s.move c₂) hq hm₃ hends hat.deep)).trans ?_
    exact (bind_ok (expect_of_moves (s := s.move c₃) hq hm₄ rfl)).trans rfl
  refine (bind_ok (advance_of_moves hm)).trans ((bind_ok hcond).trans ?_)
  refine (bind_ok (emit_eq _)).trans ?_
  refine (bind_ok (block_of_moves hg (s := (s.move c₅).after _ c₅) hq hmb hat.fits
    hat.nesting)).trans ?_
  rw [emit_eq, enclosed_line]
  exact congrArg _ (after_enclosed (test.head s.types head) body c₅ c c)

/-! ## Alternatives -/

/-- The alternatives of a branch stand between two cursors. -/
structure AlternativesAt (depth : Nat) (c : Cursor) (links : Links) (other : Other)
    (c' : Cursor) : Prop where
  moves : c.Moves (links.yield ++ other.yield) c'
  links_fits : links.Fits
  other_fits : other.Fits c'.rest
  links_nesting : links.nesting ≤ depth + 1
  other_nesting : other.nesting ≤ depth + 1

/-- What the alternatives of a branch write. -/
def alternativesEmission (types : TypeTable) (indent : Nat) (links : Links) (other : Other) :
    Emission :=
  let e := links.emission types indent
  e ++ other.emission (types.declareAll e.declared) indent

theorem check_eq (kind : TokenKind) :
    (Read.check kind : Gen Bool) s = .ok (decide (s.cursor.here.kind = kind)) s := rfl

theorem of_alternatives_ok (hg : Generates depth inner) {n : Nat} (hq : s.debug = false)
    (hs : s.cursor.Sealed) (hn : s.cursor.ahead.length < n)
    (h : alternatives (expression (depth + 1)) inner n s = .ok () s') :
    ∃ (links : Links) (other : Other) (c : Cursor), AlternativesAt depth s.cursor links other c ∧
      s' = s.after (alternativesEmission s.types s.output.indent links other) c := by
  induction n generalizing s with
  | zero => omega
  | succ n ih =>
      rcases elseFollows_cases (s := s) hs with ⟨lines, c₁, hm₁, hk₁, hfollows⟩ | ⟨hne, hfollows⟩
      · replace h := (bind_ok hfollows).symm.trans h
        have hs₁ := hm₁.isSealed hs
        obtain ⟨_, s₂, h₂, h⟩ := of_bind_ok h
        obtain ⟨word, c₂, -, hm₂, rfl⟩ := of_advance_ok (s := s.move c₁) hs₁ hk₁ (by simp) h₂
        have hs₂ := hm₂.isSealed hs₁
        have hlen₁ := hm₁.length_ahead
        have hlen₂ := hm₂.length_ahead
        rw [List.length_singleton] at hlen₂
        replace h := (bind_ok (check_eq _)).symm.trans h
        by_cases hif : c₂.here.kind = .keyword .ifK
        · rw [if_pos (by exact decide_eq_true hif)] at h
          obtain ⟨_, s₃, h₃, h⟩ := of_bind_ok h
          obtain ⟨m, test, body, c₃, c₄, hm₃, hguard, rfl⟩ :=
            of_guarded_ok hg (s := s.move c₂) hq hs₂ hif h₃
          have hlen₃ := hm₃.length_ahead
          have hlen₄ := hguard.moves.length_ahead
          obtain ⟨links, other, c₅, hat, rfl⟩ :=
            ih (s := (s.move c₂).after _ c₄) hq (hguard.moves.isSealed (hm₃.isSealed hs₂))
              (by simp only [State.cursor_after, State.cursor_move] at *; omega) h
          refine ⟨.cons lines word m test body links, other, c₅, ⟨?_, ?_, hat.other_fits, ?_,
            hat.other_nesting⟩, ?_⟩
          · have := hm₁.trans (hm₂.trans (hm₃.trans (hguard.moves.trans hat.moves)))
            simpa [Links.yield, List.append_assoc] using this
          · exact ⟨hguard.proper, hguard.fits, hat.links_fits⟩
          · exact Nat.max_le.2 ⟨Nat.max_le.2 ⟨hguard.deep, Nat.succ_le_succ hguard.nesting⟩,
              hat.links_nesting⟩
          · rw [State.after_after]
            simp only [alternativesEmission, Links.emission, State.move_after, State.types_after,
              State.indent_after, State.output_move, State.types_move, Emission.append_assoc,
              Emission.declared_append, TypeTable.declareAll_append]
        · rw [if_neg (by exact fun hd => hif (of_decide_eq_true hd))] at h
          replace h := (bind_ok (emit_eq _)).symm.trans h
          obtain ⟨_, s₃, h₃, h⟩ := of_bind_ok h
          obtain ⟨body, c₃, hm₃, hf, hnb, rfl⟩ :=
            of_block_ok hg (s := (s.move c₂).after _ c₂) hq hs₂ h₃
          rw [emit_eq] at h
          cases h
          refine ⟨.nil, .some lines word body, c₃, ⟨hm₁.trans (hm₂.trans hm₃), trivial, hf,
            Nat.zero_le _, Nat.succ_le_succ hnb⟩, ?_⟩
          exact (after_enclosed (s := s.move c₁) "else" body c₂ c₃ c₃).trans
            (congrArg (fun e => s.after e c₃) (Emission.empty_append _).symm)
      · replace h := (bind_ok hfollows).symm.trans h
        cases h
        exact ⟨.nil, .none, _, ⟨.refl _, trivial, hne, Nat.zero_le _, Nat.zero_le _⟩,
          (State.after_empty _ _).symm⟩

/-- The links of a branch are taken one by one, whatever follows them. -/
theorem alternatives_of_links (hg : Generates depth inner) :
    (links : Links) → ∀ {s : State} {c : Cursor} (n : Nat), s.debug = false →
      s.cursor.Moves links.yield c → links.Fits → links.nesting ≤ depth + 1 →
      alternatives (expression (depth + 1)) inner (links.length + n) s =
        alternatives (expression (depth + 1)) inner n
          (s.after (links.emission s.types s.output.indent) c)
  | .nil, s, c, n, _, hm, _, _ => by
      obtain rfl := hm.eq_of_nil
      rw [Links.length, Nat.zero_add, Links.emission, s.after_empty]
      rfl
  | .cons lines other word test body rest, s, c, n, hq, hm, hf, hnest => by
      obtain ⟨c₁, hm₁, hm⟩ := hm.split
      obtain ⟨c₂, hm₂, hm⟩ := hm.head_split
      obtain ⟨c₃, hm₃, hm⟩ := hm.head_split
      obtain ⟨c₄, hm₄, hm₅⟩ := hm.split
      have hnest := Nat.max_le.1 hnest
      have hguard := Nat.max_le.1 hnest.1
      have hat : GuardAt depth c₃ test body c₄ :=
        ⟨hm₄, hf.1, hguard.1, hf.2.1, Nat.le_of_succ_le_succ hguard.2⟩
      rw [Links.length, Nat.add_right_comm]
      refine (bind_ok (elseFollows_of_moves hm₁ (by rw [hm₂.here_eq]; rfl))).trans ?_
      refine (bind_ok (advance_of_moves (s := s.move c₁) hm₂)).trans ?_
      refine (bind_ok (check_eq _)).trans ?_
      rw [if_pos (by exact decide_eq_true (by rw [State.cursor_move, hm₃.here_eq]; rfl))]
      refine (bind_ok (guarded_of_moves hg (s := s.move c₂) hq hm₃ hat)).trans ?_
      rw [alternatives_of_links hg rest n (s := (s.move c₂).after _ c₄) hq hm₅ hf.2.2 hnest.2,
        State.after_after]
      simp only [Links.emission, State.move_after, State.types_after, State.indent_after,
        State.output_move, State.types_move]

theorem alternatives_of_moves (hg : Generates depth inner) {links : Links} {other : Other}
    {n : Nat} (hq : s.debug = false) (hat : AlternativesAt depth s.cursor links other c)
    (hn : links.length < n) :
    alternatives (expression (depth + 1)) inner n s =
      .ok () (s.after (alternativesEmission s.types s.output.indent links other) c) := by
  obtain ⟨n, rfl⟩ : ∃ k, n = links.length + (k + 1) := ⟨n - links.length - 1, by omega⟩
  obtain ⟨c₁, hm₁, hm₂⟩ := hat.moves.split
  rw [alternatives_of_links hg links (n + 1) hq hm₁ hat.links_fits hat.links_nesting]
  cases other with
  | none =>
      obtain rfl := hm₂.eq_of_nil
      refine (bind_ok (elseFollows_of_ne (s := s.after _ c₁) hat.other_fits)).trans ?_
      rw [alternativesEmission, Other.emission, Emission.append_empty]
      rfl
  | some lines word body =>
      obtain ⟨c₂, hm₃, hm⟩ := hm₂.split
      obtain ⟨c₃, hm₄, hm₅⟩ := hm.head_split
      -- no word for a condition follows, since a block does
      have hif : c₃.here.kind ≠ .keyword .ifK := by
        cases body with
        | mk opening items closing => rw [hm₅.here_eq]; simp
      refine (bind_ok (elseFollows_of_moves (s := s.after _ c₁) hm₃
        (by rw [hm₄.here_eq]; rfl))).trans ?_
      refine (bind_ok (advance_of_moves (s := s.after _ c₂) hm₄)).trans ?_
      refine (bind_ok (check_eq _)).trans ?_
      rw [if_neg (by exact fun hd => hif (of_decide_eq_true hd))]
      refine (bind_ok (emit_eq _)).trans ?_
      refine (bind_ok (block_of_moves hg (s := (s.after _ c₃).after _ c₃) hq hm₅ hat.other_fits
        (Nat.le_of_succ_le_succ hat.other_nesting))).trans ?_
      rw [emit_eq]
      refine congrArg _ ((after_enclosed (s := s.after _ c₂) "else" body c₃ c c).trans ?_)
      rw [State.after_after, State.indent_after, State.types_after]
      rfl

end

end Gen

end StageZero
