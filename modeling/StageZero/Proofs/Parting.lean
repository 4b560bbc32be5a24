import StageZero.Proofs.PairedRuns

/-!
# Where two runs part

Blocks and branches pass over line breaks, and behind line breaks one list may be
at its end where the other goes on. There two runs part. It happens at one of two
places only: where a statement is looked for, and where an alternative to a branch
is looked for. In both cases the first run has nothing left to read, so what it
still does can be told. It leaves the loops it is in, and each block around it
lacks its closing brace. The first such block stops it, at the end of input.

What the second run does cannot be told in general. But if it goes on with closing
braces, each on a line of its own, then it closes one block after the other. The
end of the first list is the case of no brace at all. So one account is enough for
both, `Closing`: before a number of braces, a step that is left inside a number of
blocks closes them, or it lacks a brace at the end of input.
-/

namespace StageZero

open StageZero.Tree

/-! ## Before closing braces -/

/-- So many closing braces, each with a line break behind it, and the end of
input. -/
inductive Closers : Nat → List Token → Prop where
  | eof {e : Token} (he : e.kind = .eof) : Closers 0 [e]
  | brace {k : Nat} {b l : Token} {rest : List Token} (hb : b.kind = .rbrace)
      (hl : l.kind = .newline) (h : Closers k rest) : Closers (k + 1) (b :: l :: rest)

theorem Closers.nextKind {k : Nat} {ts : List Token} (h : Closers k ts) :
    nextKind ts = .rbrace ∨ nextKind ts = .eof := by
  cases h with
  | eof he => exact .inr he
  | brace hb hl h => exact .inl hb

theorem Closers.nextKind_ne {k : Nat} {ts : List Token} (h : Closers k ts) :
    Tree.nextKind ts ≠ .newline := by
  rcases h.nextKind with hk | hk <;> rw [hk] <;> simp

theorem Closers.here {k : Nat} {c : Cursor} (h : Closers k c.rest) :
    c.here.kind = .rbrace ∨ c.here.kind = .eof :=
  h.nextKind

theorem Closers.ne_nil {k : Nat} {ts : List Token} (h : Closers k ts) : ts ≠ [] := by
  cases h <;> exact List.cons_ne_nil _ _

theorem Closers.between {k : Nat} {ts : List Token} (h : Closers k ts) :
    ∀ t ∈ ts, t.kind.betweenStatements = true := by
  induction h with
  | eof he => simp [he, TokenKind.betweenStatements]
  | brace hb hl h ih => simpa [hb, hl, TokenKind.betweenStatements] using ih

theorem Closers.isSealed {k : Nat} {c : Cursor} (h : Closers k c.rest) : c.Sealed := by
  have hlast : ∀ {k ts}, Closers k ts → ∀ t ∈ ts.getLast?, t.kind = .eof := by
    intro k ts h
    induction h with
    | eof he => simpa using he
    | brace hb hl h ih =>
        obtain ⟨t, ts, hts⟩ := List.exists_cons_of_ne_nil h.ne_nil
        rw [hts] at ih ⊢
        rwa [List.getLast?_cons_cons, List.getLast?_cons_cons]
  exact hlast h c.last c.getLast?_rest

theorem Closers.ne_newline {k : Nat} {c : Cursor} (h : Closers k c.rest) :
    c.here.kind ≠ .newline :=
  h.nextKind_ne

/-- The cursor is before so many closing braces. -/
structure AtClosers (k : Nat) (s : State) : Prop where
  quiet : s.debug = false
  closers : Closers k s.cursor.rest

/-- Only line breaks stand before so many closing braces. -/
structure NearClosers (k : Nat) (s : State) : Prop where
  quiet : s.debug = false
  closers : Closers k s.cursor.skipNewlines.rest

section

variable {k j b c : Nat} {s t : State} {Q Q' : Nat → State → Prop} {m : Gen Unit}

theorem AtClosers.near (h : AtClosers k s) : NearClosers k s :=
  ⟨h.quiet, by rw [Cursor.skipNewlines_of_ne h.closers.ne_newline]; exact h.closers⟩

theorem NearClosers.skip (h : NearClosers k s) : AtClosers k (s.move s.cursor.skipNewlines) :=
  ⟨h.quiet, h.closers⟩

theorem NearClosers.isSealed (h : NearClosers k s) : s.cursor.Sealed := by
  obtain ⟨lines, hm, -⟩ := s.cursor.skipNewlines_moves
  exact hm.isSealed_iff.1 h.closers.isSealed

theorem NearClosers.between (h : NearClosers k s) :
    ∀ t ∈ s.cursor.rest, t.kind.betweenStatements = true := by
  obtain ⟨lines, hm, -⟩ := s.cursor.skipNewlines_moves
  intro t ht
  rw [hm.rest] at ht
  rcases List.mem_append.1 ht with hl | hc
  · obtain ⟨l, -, rfl⟩ := List.mem_map.1 hl
    rfl
  · exact h.closers.between t hc

theorem NearClosers.of_reading (h : NearClosers k s) (hr : t.toReading = s.toReading) :
    NearClosers k t :=
  ⟨by rw [hr]; exact h.quiet, by rw [hr]; exact h.closers⟩

theorem AtClosers.of_reading (h : AtClosers k s) (hr : t.toReading = s.toReading) :
    AtClosers k t :=
  ⟨by rw [hr]; exact h.quiet, by rw [hr]; exact h.closers⟩

/-- The names of the blocks of the language. -/
def blockPlaces : List String :=
  ["while body", "if body", "else body", "function body"]

/-- A block is not closed where the input ends. -/
inductive LacksBrace : Failure → Prop where
  | fault {place : String} (hp : place ∈ blockPlaces) {d : Diagnostic}
      (hd : d.message = (Fault.unclosedBlock place).message) {e : Token} (he : e.kind = .eof) :
      LacksBrace (.fault (.unclosedBlock place) d e)

/-- What a step comes to before `k` closing braces from inside `b` blocks. It
stands behind the blocks with braces left over, or there were too few. -/
inductive Closing (Q : Nat → State → Prop) (k b : Nat) :
    EStateM.Result Failure State Unit → Prop where
  | ok {j : Nat} {s : State} (h : Q j s) (hk : k ≤ j + b) : Closing Q k b (.ok () s)
  | lacks {e : Failure} (he : LacksBrace e) (hk : k < b) (s : State) : Closing Q k b (.error e s)

theorem Closing.around {r : EStateM.Result Failure State Unit} (h : Closing Q j c r)
    (hk : k ≤ j + b) : Closing Q k (b + c) r := by
  cases h with
  | ok h hj => exact .ok h (by omega)
  | lacks he hj s => exact .lacks he (by omega) s

theorem Closing.bind {f : Unit → Gen Unit} (h : Closing Q k b (m s))
    (hf : ∀ j t, m s = .ok () t → Q j t → Closing Q' j c (f () t)) :
    Closing Q' k (b + c) ((m >>= f) s) := by
  cases hm : m s with
  | ok a t =>
      rw [hm] at h
      cases h with
      | @ok j _ hq hk =>
          rw [bind_ok hm]
          exact (hf j t hm hq).around hk
  | error e t =>
      rw [hm] at h
      cases h with
      | lacks he hk =>
          rw [bind_error hm]
          exact .lacks he (by omega) t

end

/-! ## What is left of the constructs -/

section

variable {depth k n : Nat} {s : State} {m : Gen Unit}

/-- Before closing braces there is no statement to be found. -/
theorem Generates.near (hg : Generates depth m) (hd : 0 < depth) (h : NearClosers k s) :
    m s = .ok () (s.move s.cursor.skipNewlines) := by
  obtain ⟨lines, hm, -⟩ := s.cursor.skipNewlines_moves
  induction lines generalizing s with
  | nil =>
      have hskip : s.cursor.skipNewlines = s.cursor := hm.eq_of_nil.symm
      have hhere := h.closers.here
      rw [hskip] at hhere ⊢
      exact hg.stop hd hhere
  | cons l lines ih =>
      have hl : s.cursor.here.kind = .newline := by rw [hm.here_eq]; rfl
      have hskip := Cursor.skipNewlines_next hl
      rw [hg.line hd hl, ih (s := s.move s.cursor.next) ⟨h.quiet, ?_⟩ ?_]
      · rw [State.cursor_move, hskip]
        rfl
      · rw [State.cursor_move, hskip]
        exact h.closers
      · rw [State.cursor_move, hskip]
        exact hm.next

namespace Gen

variable {inner : Gen Unit} {expr : Gen Fragment}

/-- The loop of a block passes over the line breaks and ends at the brace. -/
theorem closing_repeatUntil (hg : Generates depth inner) (hd : 0 < depth) (h : NearClosers k s)
    (hn : 0 < n) : Closing AtClosers k 0 (repeatUntil [.rbrace, .eof] inner n s) := by
  obtain ⟨n, rfl⟩ : ∃ i, n = i + 1 := ⟨n - 1, by omega⟩
  by_cases hmem : s.cursor.here.kind ∈ [TokenKind.rbrace, .eof]
  · rw [repeatUntil_of_mem hmem]
    have hskip : s.cursor.skipNewlines = s.cursor :=
      Cursor.skipNewlines_of_ne fun hl => by rw [hl] at hmem; revert hmem; decide
    exact .ok ⟨h.quiet, hskip ▸ h.closers⟩ (Nat.le_refl _)
  · rw [repeatUntil_of_notMem hmem, bind_ok (hg.near hd h)]
    cases n with
    | zero => exact .ok h.skip (Nat.le_refl _)
    | succ n =>
        rw [repeatUntil_of_mem (by simpa using h.closers.here)]
        exact .ok h.skip (Nat.le_refl _)

theorem expect_of_ne {kind : TokenKind} (cause : Fault) (hq : s.debug = false)
    (hk : s.cursor.here.kind ≠ kind) : ∃ s', (Read.expect kind cause : Gen Token) s =
      .error (.fault cause (s.report.diagnose Fault.code cause.message s.cursor.here)
        s.cursor.here) s' := by
  have hfail : Read.expect kind cause s.toReading = Read.fail cause s.toReading := by
    unfold Read.expect
    rw [bind_ok Read.current_eq, bind_ok (Read.note_quiet hq _), bind_ok (Read.check_eq kind),
      decide_eq_false hk]
    rfl
  obtain ⟨r, hr⟩ : ∃ r, Read.fail (α := Token) cause s.toReading = .error (.fault cause
      (s.report.diagnose Fault.code cause.message s.cursor.here) s.cursor.here) r := ⟨_, rfl⟩
  refine ⟨{ s with toReading := r }, ?_⟩
  show lift (Read.expect kind cause) s = _
  unfold lift
  rw [hfail, hr]

/-- A block takes the next brace, or it lacks one. -/
theorem closing_rbrace {place : String} (hp : place ∈ blockPlaces) (h : AtClosers k s) :
    Closing NearClosers k 1 ((Read.expect .rbrace (.unclosedBlock place) >>=
      fun _ => pure () : Gen Unit) s) := by
  have hrest := h.closers
  generalize hts : s.cursor.rest = ts at hrest
  cases hrest with
  | eof he =>
      obtain ⟨hhere, -⟩ := List.cons.inj hts
      rw [← hhere] at he
      obtain ⟨s', hfail⟩ := expect_of_ne (.unclosedBlock place) h.quiet
        (show s.cursor.here.kind ≠ .rbrace by rw [he]; simp)
      rw [bind_error hfail]
      exact .lacks (.fault hp rfl he) Nat.one_pos s'
  | @brace k b l rest hb hl hrest =>
      obtain ⟨c, hm, hc⟩ :=
        Cursor.exists_moves (show _ = [b] ++ _ from hts) (List.cons_ne_nil l rest)
      obtain ⟨c', hm', hc'⟩ := Cursor.exists_moves (show _ = [l] ++ _ from hc) hrest.ne_nil
      rw [bind_ok (expect_of_moves h.quiet hm hb)]
      refine .ok ⟨h.quiet, ?_⟩ (Nat.le_refl _)
      rw [State.cursor_move, ← Cursor.skipNewlines_next (by rw [hm'.here_eq]; exact hl),
        hm'.next_eq]
      rw [← hc'] at hrest
      rwa [Cursor.skipNewlines_of_ne hrest.ne_newline]

theorem alternatives_near (h : NearClosers k s) (n : Nat) :
    alternatives expr inner n s = .ok () s := by
  cases n with
  | zero => rfl
  | succ n =>
      have hne : nextKindPastLines s.cursor.rest ≠ .keyword .elseK := by
        rw [Cursor.nextKindPastLines_eq_skipNewlines h.closers.ne_newline]
        rcases h.closers.here with hk | hk <;> rw [hk] <;> simp
      exact bind_ok (elseFollows_of_ne hne)

/-- The loop of a run takes all that is left. -/
theorem loop_between (hd : 0 < depth) (hq : s.debug = false) (hs : s.cursor.Sealed)
    (hrest : ∀ t ∈ s.cursor.rest, t.kind.betweenStatements = true)
    (hn : s.cursor.ahead.length < n) : ∃ s', loop depth n s = .ok () s' := by
  induction hlen : s.cursor.ahead.length using Nat.strongRecOn generalizing s n with
  | ind len ih =>
      obtain ⟨n, rfl⟩ : ∃ i, n = i + 1 := ⟨n - 1, by omega⟩
      by_cases hk : s.cursor.here.kind = .eof
      · exact ⟨s, loop_of_eof hk n⟩
      have hm := hs.moves_next hk
      have hahead := hm.length_ahead
      rw [List.length_singleton] at hahead
      have hrest' : ∀ t ∈ s.cursor.next.rest, t.kind.betweenStatements = true := fun t ht =>
        hrest t (by rw [hm.rest]; exact List.mem_append_right _ ht)
      have hhere := hrest s.cursor.here List.mem_cons_self
      cases hkind : s.cursor.here.kind with
      | newline =>
          obtain ⟨l, hl⟩ := exists_mark hkind
          rw [hl] at hm
          obtain ⟨i, hi, heq⟩ := loop_line hd hm n
          rw [heq]
          exact ih s.cursor.next.ahead.length (by omega) (s := s.move s.cursor.next) hq
            (hm.isSealed hs) hrest' (by rw [State.cursor_move]; omega) rfl
      | rbrace =>
          obtain ⟨l, hl⟩ := exists_mark hkind
          rw [hl] at hm
          rw [loop_of_ne hk, bind_ok (topLevel_stray hm)]
          exact ih s.cursor.next.ahead.length (by omega) (s := s.after _ s.cursor.next) hq
            (hm.isSealed hs) hrest' (by rw [State.cursor_after]; omega) rfl
      | eof => exact absurd hkind hk
      | _ => rw [hkind] at hhere; cases hhere

end Gen

end

/-! ## Two runs that may part -/

/-- How the runs of a pairing may part. Behind line breaks two cursors correspond
again, or the first is at the end of input. -/
structure Parting (P : Pairing) where
  /-- Whether the first list may end before the second. -/
  parts : Prop
  /-- How many closing braces the second list then goes on with, if it does. -/
  closers : Nat → Prop
  skip : ∀ {c c' : Cursor}, P.Cursors c c' → P.Cursors c.skipNewlines c'.skipNewlines ∨
    (parts ∧ Closers 0 c.skipNewlines.rest ∧ ∀ k, closers k → Closers k c'.skipNewlines.rest)

namespace Parting

/-- The runs agree, or they have parted inside `b` blocks. -/
def Course {P : Pairing} (D : Parting P) (Q : Nat → State → Prop) (b : Nat)
    (r r' : EStateM.Result Failure State Unit) : Prop :=
  P.Gen Eq r r' ∨ (D.parts ∧ Closing Q 0 b r ∧ ∀ k, D.closers k → Closing Q k b r')

/-- Two generators that take the same course and open no more than `b` blocks in
each other. -/
def Courses {P : Pairing} (D : Parting P) (b : Nat) (m m' : Gen Unit) : Prop :=
  ∀ {s s'}, P.States s s' → D.Course NearClosers b (m s) (m' s')

variable {P : Pairing} {D : Parting P} {Q Q' : Nat → State → Prop} {b c : Nat} {s s' : State}

/-- Steps that agree, and then a course. -/
theorem course_bind {α β : Type} {A : α → β → Prop} {m : Gen α} {m' : Gen β} {f : α → Gen Unit}
    {f' : β → Gen Unit} (h : P.Gen A (m s) (m' s'))
    (hf : ∀ a a' t t', m s = .ok a t → A a a' → P.States t t' →
      D.Course Q b (f a t) (f' a' t')) :
    D.Course Q b ((m >>= f) s) ((m' >>= f') s') := by
  cases hm : m s with
  | ok a t =>
      rw [hm] at h
      obtain ⟨a', t', hm', ha, ht⟩ := h.of_ok
      rw [bind_ok hm, bind_ok hm']
      exact hf a a' t t' hm ha ht
  | error e t =>
      rw [hm] at h
      obtain ⟨e', t', hm', he⟩ := h.of_error
      rw [bind_error hm, bind_error hm']
      exact .inl he

/-- A course, and then steps that take the same course or bring both runs to an
end on their own. -/
theorem Course.bind {m m' : Gen Unit} {f f' : Unit → Gen Unit} (h : D.Course Q b (m s) (m' s'))
    (hf : ∀ t t', m s = .ok () t → P.States t t' → D.Course Q' (b + c) (f () t) (f' () t'))
    (he : ∀ j t, m s = .ok () t → Q j t → Closing Q' j c (f () t))
    (he' : ∀ j t, m' s' = .ok () t → Q j t → Closing Q' j c (f' () t)) :
    D.Course Q' (b + c) ((m >>= f) s) ((m' >>= f') s') := by
  rcases h with h | ⟨hparts, hend, hend'⟩
  · exact course_bind h fun _ _ t t' hm _ ht => hf t t' hm ht
  · exact .inr ⟨hparts, hend.bind he, fun k hk => (hend' k hk).bind he'⟩

/-- What is written at the end has no part in where the runs end. -/
theorem Course.write {m m' : Gen Unit} {f f' : Output → Output}
    (h : D.Course NearClosers b (m s) (m' s'))
    (hf : ∀ {t t'}, P.States t t' → P.Outputs (f t.output) (f' t'.output)) :
    D.Course NearClosers b ((m >>= fun _ => Gen.write f) s)
      ((m' >>= fun _ => Gen.write f') s') := by
  have hclosing : ∀ (g : Output → Output) j t, NearClosers j t →
      Closing NearClosers j 0 (Gen.write g t) := fun g j t ht =>
    .ok (ht.of_reading rfl) (Nat.le_refl _)
  exact h.bind (c := 0) (fun t t' _ ht => .inl (Gen.paired_write ht (hf ht)))
    (fun j t _ ht => hclosing f j t ht) (fun j t _ ht => hclosing f' j t ht)

end Parting

namespace Gen

section

variable {P : Pairing} {D : Parting P} {s s' : State} {inner : Gen Unit} {depth b n : Nat}

theorem course_repeatUntil {stops : List TokenKind} {Q : Nat → State → Prop}
    (hi : D.Courses b inner inner)
    (hp : ∀ {s t : State}, s.debug = false → s.cursor.Sealed → s.cursor.here.kind ∉ stops →
      inner s = .ok () t → t.cursor.ahead.length < s.cursor.ahead.length)
    (he : ∀ {s t : State} {j n : Nat}, inner s = .ok () t → NearClosers j t →
      t.cursor.ahead.length < n → Closing Q j 0 (repeatUntil stops inner n t))
    (h : P.States s s') (hn : s.cursor.ahead.length < n) :
    D.Course Q b (repeatUntil stops inner n s) (repeatUntil stops inner (n + P.gap) s') := by
  induction n generalizing s s' with
  | zero => omega
  | succ n ih =>
      have hahead : s'.cursor.ahead.length = s.cursor.ahead.length + P.gap :=
        P.ahead h.readings.cursors
      rw [Nat.add_right_comm]
      by_cases hmem : s.cursor.here.kind ∈ stops
      · rw [repeatUntil_of_mem hmem, repeatUntil_of_mem (by rw [h.kind]; exact hmem)]
        exact .inl ⟨rfl, h⟩
      · have hmem' : s'.cursor.here.kind ∉ stops := by rw [h.kind]; exact hmem
        rw [repeatUntil_of_notMem hmem, repeatUntil_of_notMem hmem']
        refine (hi h).bind (c := 0) (fun t t' hm ht => ?_) (fun j t hm hj => ?_)
          (fun j t hm hj => ?_)
        · have := hp h.readings.quiet h.isSealed hmem hm
          exact ih ht (by omega)
        · have := hp h.readings.quiet h.isSealed hmem hm
          exact he hm hj (by omega)
        · have := hp h.readings.quiet' (P.isSealed' h.readings.cursors) hmem' hm
          exact he hm hj (by omega)

theorem course_block (hg : Generates depth inner) (hi : D.Courses b inner inner)
    {place : String} (hplace : place ∈ blockPlaces) :
    D.Courses (b + 1) (block inner place) (block inner place) := by
  intro s s' h
  refine Parting.course_bind (paired_expect h rfl (.same _)) fun _ _ s₁ s₁' _ _ h₁ => ?_
  refine Parting.course_bind (paired_write h₁ (h₁.output.indent (· + 1)))
    fun _ _ s₂ s₂' _ _ h₂ => ?_
  rw [bind_ok remaining_eq, bind_ok remaining_eq, P.ahead h₂.readings.cursors, Nat.add_right_comm]
  have hloop := course_repeatUntil (Q := AtClosers) hi hg.progress
    (fun hm hj hn => closing_repeatUntil hg (hg.pos hm) hj (by omega)) h₂ (Nat.lt_succ_self _)
  -- the brace that closes the block
  have hclose : ∀ j t, AtClosers j t → Closing NearClosers j 1
      ((write (fun o => { o with indent := o.indent - 1 }) >>= fun _ =>
        Read.expect .rbrace (.unclosedBlock place) >>= fun _ => pure ()) t) := by
    intro j t ht
    rw [bind_ok shallower_eq]
    exact closing_rbrace hplace (ht.of_reading rfl)
  refine hloop.bind (fun s₃ s₃' _ h₃ => ?_) (fun j t _ ht => hclose j t ht)
    (fun j t _ ht => hclose j t ht)
  refine Parting.course_bind (paired_write h₃ (h₃.output.indent (· - 1)))
    fun _ _ s₄ s₄' _ _ h₄ => ?_
  exact Parting.course_bind (paired_expect h₄ rfl (.same _)) fun _ _ s₅ s₅' _ _ h₅ =>
    .inl ⟨rfl, h₅⟩

theorem course_guarded (hg : Generates depth inner) (hi : D.Courses b inner inner)
    (h : P.States s s') (hk : s.cursor.here.kind.endsLine = false) (head : String)
    {place : String} (hplace : place ∈ blockPlaces) :
    D.Course NearClosers (b + 1) (guarded (expression (depth + 1)) inner head place s)
      (guarded (expression (depth + 1)) inner head place s') := by
  refine Parting.course_bind (paired_advance h hk) fun word word' s₁ s₁' _ hword h₁ => ?_
  refine Parting.course_bind (paired_condition (depth + 1) h₁ hword)
    fun test test' s₂ s₂' _ htest h₂ => ?_
  have htest' := htest.map fun test => head ++ " (" ++ test ++ ") \x7b"
  refine Parting.course_bind (paired_emit h₂ htest') fun _ _ s₃ s₃' _ _ h₃ => ?_
  exact (course_block hg hi hplace h₃).write fun h₄ => h₄.output.emit (.refl _)

theorem paired_elseFollows (h : P.States s s')
    (hc : P.Cursors s.cursor.skipNewlines s'.cursor.skipNewlines) :
    P.Gen Eq ((Read.elseFollows : Gen Bool) s) ((Read.elseFollows : Gen Bool) s') := by
  have hk : s'.cursor.skipNewlines.here.kind = s.cursor.skipNewlines.here.kind :=
    (P.kind (P.here hc)).symm
  refine paired_lift h ?_
  show P.Read Eq
    ((if s.cursor.skipNewlines.here.kind = .keyword .elseK then _ else _ : Read Bool) _)
    ((if s'.cursor.skipNewlines.here.kind = .keyword .elseK then _ else _ : Read Bool) _)
  rw [hk]
  split
  · exact ⟨rfl, h.readings.move hc⟩
  · exact ⟨rfl, h.readings⟩

theorem course_alternatives (hg : Generates depth inner) (hi : D.Courses b inner inner)
    (h : P.States s s') (hn : s.cursor.ahead.length < n) :
    D.Course NearClosers (b + 1) (alternatives (expression (depth + 1)) inner n s)
      (alternatives (expression (depth + 1)) inner (n + P.gap) s') := by
  induction n generalizing s s' with
  | zero => omega
  | succ n ih =>
      rw [Nat.add_right_comm]
      rcases D.skip h.readings.cursors with hc | ⟨hparts, hend, hend'⟩
      · refine Parting.course_bind (paired_elseFollows h hc) fun found found' s₁ s₁' h₀ heq h₁ => ?_
        subst heq
        cases found with
        | false => exact .inl ⟨rfl, h₁⟩
        | true =>
            rcases elseFollows_cases h.isSealed with ⟨lines, c₁, hm₁, hk₁, heq⟩ | ⟨-, heq⟩
            · cases heq.symm.trans h₀
              refine Parting.course_bind (paired_advance h₁ (by rw [State.cursor_move, hk₁]; rfl))
                fun _ _ s₂ s₂' hadv _ h₂ => ?_
              obtain ⟨word, c₂, -, hm₂, rfl⟩ :=
                of_advance_ok h₁.isSealed (by exact hk₁) (by simp) hadv
              rw [bind_ok (check_eq _), bind_ok (check_eq _), h₂.kind]
              by_cases hif : c₂.here.kind = .keyword .ifK
              · rw [if_pos (by exact decide_eq_true hif), if_pos (by exact decide_eq_true hif)]
                have hbranch := course_guarded hg hi h₂ (by rw [State.cursor_move, hif]; rfl)
                  "else if" (show "if body" ∈ blockPlaces by decide)
                refine hbranch.bind (c := 0) (fun s₃ s₃' hm h₃ => ?_)
                  (fun j t _ ht => alternatives_near ht n ▸ .ok ht (Nat.le_refl _))
                  (fun j t _ ht => alternatives_near ht _ ▸ .ok ht (Nat.le_refl _))
                obtain ⟨m, test, body, c₃, c₄, hm₃, hguard, rfl⟩ :=
                  of_guarded_ok hg h₂.readings.quiet h₂.isSealed hif hm
                have hlen₁ := hm₁.length_ahead
                have hlen₂ := hm₂.length_ahead
                have hlen₃ := hm₃.length_ahead
                have hlen₄ := hguard.moves.length_ahead
                rw [List.length_singleton] at hlen₂
                simp only [State.cursor_move] at hlen₂ hlen₃
                exact ih h₃ (by rw [State.cursor_after]; omega)
              · rw [if_neg (by exact fun hd => hif (of_decide_eq_true hd)),
                  if_neg (by exact fun hd => hif (of_decide_eq_true hd))]
                refine Parting.course_bind (paired_emit h₂ (.refl _)) fun _ _ s₃ s₃' _ _ h₃ => ?_
                have hblock := course_block hg hi (show "else body" ∈ blockPlaces by decide) h₃
                exact hblock.write fun h₄ => h₄.output.emit (.refl _)
            · cases heq.symm.trans h₀
      · -- the first list is at its end, and the second may go on with an alternative
        have hnear : NearClosers 0 s := ⟨h.readings.quiet, hend⟩
        refine .inr ⟨hparts, ?_, fun k hk => ?_⟩
        · rw [alternatives_near hnear]
          exact .ok hnear (Nat.zero_le _)
        · have hnear' : NearClosers k s' := ⟨h.readings.quiet', hend' k hk⟩
          rw [alternatives_near hnear']
          exact .ok hnear' (Nat.le_add_right _ _)

theorem course_ifStatement (hg : Generates depth inner) (hi : D.Courses b inner inner)
    (h : P.States s s') (hk : s.cursor.here.kind.endsLine = false) :
    D.Course NearClosers (b + 1) (ifStatement (expression (depth + 1)) inner s)
      (ifStatement (expression (depth + 1)) inner s') := by
  have hend : ∀ j t, NearClosers j t → Closing NearClosers j 0
      ((Read.remaining >>= fun n => alternatives (expression (depth + 1)) inner (n + 1) : Gen Unit)
        t) := by
    intro j t ht
    rw [bind_ok remaining_eq, alternatives_near ht]
    exact .ok ht (Nat.le_refl _)
  have hbranch := course_guarded hg hi h hk "if" (show "if body" ∈ blockPlaces by decide)
  refine hbranch.bind (c := 0) (fun s₁ s₁' _ h₁ => ?_) (fun j t _ ht => hend j t ht)
    (fun j t _ ht => hend j t ht)
  rw [bind_ok remaining_eq, bind_ok remaining_eq, P.ahead h₁.readings.cursors,
    Nat.add_right_comm s₁.cursor.ahead.length]
  exact course_alternatives hg hi h₁ (Nat.lt_succ_self _)

theorem course_functionDeclaration (hg : Generates depth inner) (hi : D.Courses b inner inner)
    (h : P.States s s') (hk : s.cursor.here.kind.endsLine = false) :
    D.Course NearClosers (b + 1) (functionDeclaration inner s) (functionDeclaration inner s') := by
  rw [functionDeclaration_eq]
  refine Parting.course_bind (paired_functionHead h hk) fun outer outer' s₁ s₁' _ houter h₁ => ?_
  have hblock := course_block hg hi (show "function body" ∈ blockPlaces by decide) h₁
  exact hblock.write fun h₂ => h₂.output.closeFunction houter

/-- A statement behind the line breaks, or the end of what holds it. -/
theorem course_here (hg : Generates depth inner) (hi : D.Courses b inner inner)
    (h : P.States s s') (hne : s.cursor.here.kind ≠ .newline) :
    D.Course NearClosers (b + 1) (statementOver (depth + 1) inner s)
      (statementOver (depth + 1) inner s') := by
  have hstop := (generates_statementOver hg).stop (s := s) (Nat.succ_pos _)
  have hstop' := (generates_statementOver hg).stop (s := s') (Nat.succ_pos _)
  rw [h.kind] at hstop'
  by_cases hend : s.cursor.here.kind = .rbrace ∨ s.cursor.here.kind = .eof
  · rw [hstop hend, hstop' hend]
    exact .inl ⟨rfl, h⟩
  have hb : s.cursor.here.kind.betweenStatements = false := by
    cases hkind : s.cursor.here.kind <;> simp_all [TokenKind.betweenStatements]
  by_cases hopens : s.cursor.here.kind.opensBlock = true
  · have handled : ∀ handler,
        statementFor? (depth + 1) inner s.cursor.here.kind = some handler →
        D.Course NearClosers (b + 1) (handler s) (handler s') →
        D.Course NearClosers (b + 1) (statementOver (depth + 1) inner s)
          (statementOver (depth + 1) inner s') := by
      intro handler hh hcourse
      rw [statementOver_of_handler h.readings.quiet hb hh,
        statementOver_of_handler h.readings.quiet' (by rw [h.kind]; exact hb)
          (by rw [h.kind]; exact hh)]
      exact hcourse
    cases hkind : s.cursor.here.kind with
    | keyword word =>
        have hline : s.cursor.here.kind.endsLine = false := by rw [hkind]; rfl
        rw [hkind] at handled hopens
        cases word with
        | whileK => exact handled _ rfl (course_guarded hg hi h hline _ (by decide))
        | ifK => exact handled _ rfl (course_ifStatement hg hi h hline)
        | functionK => exact handled _ rfl (course_functionDeclaration hg hi h hline)
        | _ => cases hopens
    | _ => rw [hkind] at hopens; cases hopens
  · exact .inl (paired_simple h hb (Bool.not_eq_true _ ▸ hopens))

theorem course_statementOver (hg : Generates depth inner) (hi : D.Courses b inner inner) :
    D.Courses (b + 1) (statementOver (depth + 1) inner) (statementOver (depth + 1) inner) := by
  intro s s' h
  rcases D.skip h.readings.cursors with hc | ⟨hparts, hend, hend'⟩
  · have hne := h.isSealed.skipNewlines_ne
    rw [statementOver_skip hne,
      statementOver_skip fun hk => hne ((P.kind (P.here hc)).trans hk)]
    exact course_here hg hi (h.move hc) hne
  · -- no statement is left in the first list
    have hover := generates_statementOver hg
    have hnear : NearClosers 0 s := ⟨h.readings.quiet, hend⟩
    refine .inr ⟨hparts, ?_, fun k hk => ?_⟩
    · rw [hover.near (Nat.succ_pos _) hnear]
      exact .ok hnear.skip.near (Nat.zero_le _)
    · have hnear' : NearClosers k s' := ⟨h.readings.quiet', hend' k hk⟩
      rw [hover.near (Nat.succ_pos _) hnear']
      exact .ok hnear'.skip.near (Nat.le_add_right _ _)

theorem course_statement (D : Parting P) (depth : Nat) :
    D.Courses depth (statement depth) (statement depth) := by
  induction depth with
  | zero => exact fun h => .inl (paired_lift h (Read.paired_fail (α := Unit) h.readings (.same _)))
  | succ depth ih => exact course_statementOver (generates_statement depth) ih

theorem course_topLevel (D : Parting P) (depth : Nat) :
    D.Courses depth (topLevel depth) (topLevel depth) := by
  intro s s' h
  by_cases hb : s.cursor.here.kind = .rbrace
  · unfold topLevel
    rw [bind_ok (check_eq _), bind_ok (check_eq _), h.kind, decide_eq_true hb]
    refine Parting.course_bind (paired_advance h (by rw [hb]; rfl)) fun t t' s₁ s₁' _ ht h₁ => ?_
    exact .inl (paired_lift h₁ (Read.paired_remark h₁.readings _ ht))
  · rw [topLevel_of_ne hb, topLevel_of_ne (by rw [h.kind]; exact hb)]
    exact course_statement D depth h

/-- Two runs agree from the beginning to the end, or they part. Then the first
ends well or lacks a brace, and so does the second, if it goes on with braces. -/
theorem course_run (D : Parting P) (hd : 0 < depth) (h : P.States s s') :
    D.Course (fun _ _ => True) depth (run depth s) (run depth s') := by
  unfold run
  rw [bind_ok remaining_eq, bind_ok remaining_eq, P.ahead h.readings.cursors, Nat.add_right_comm]
  refine course_repeatUntil (course_topLevel D depth) topLevel_progress (fun _ hj hn => ?_) h
    (Nat.lt_succ_self _)
  obtain ⟨s', hloop⟩ := loop_between hd hj.quiet hj.isSealed hj.between hn
  rw [show repeatUntil [.eof] (topLevel depth) _ _ = _ from hloop]
  exact .ok trivial (Nat.le_refl _)

end

end Gen

end StageZero
