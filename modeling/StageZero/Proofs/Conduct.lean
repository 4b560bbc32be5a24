import StageZero.Proofs.PairedRuns
import StageZero.Proofs.Yields

/-!
# How readers behave

What a step of the generator may do, whether it succeeds or fails, and how little
of it is due to the counts and the depth that the definitions carry.

A step moves the cursor forward, over tokens none of which is the end of input,
and adds warnings about tokens it has passed to the report, in their order. If it fails, it fails
with a fault: one error is added, made from the token under the cursor. `Orderly`
says so, with the least number of tokens that success takes. No step is orderly
just anywhere. A builtin wants to be called at its word, and every step that
begins by reading a token wants to be called where the input does not end; each
caller sees to that.

The counts of the loops and the depth of the recursion are bookkeeping. A round of
a loop reads a token, and so does a level of depth, so that numbers larger than
the tokens left never decide anything. `Alike` says this by comparing a step with
itself under other numbers: both do the same, in an orderly way. A fault for too
much depth comes only from a depth that the tokens left could exceed.

Both are shown in one go. The comparison has to know after every step how many
tokens are left, and that is what orderliness says.
-/

namespace StageZero

open StageZero.Tree

/-! ## What a step may have done -/

theorem Cursor.Moves.tokens {c c' : Cursor} {ts : List Token} (h : c.Moves ts c') :
    c'.tokens = c.tokens := by
  show c'.passed.reverse ++ c'.rest = c.passed.reverse ++ c.rest
  rw [h.rest, h.passed, List.reverse_append, List.reverse_reverse, List.append_assoc]

theorem Cursor.here_mem_tokens (c : Cursor) : c.here ∈ c.tokens := by
  simp [tokens]

/-- Fewer than `bound` tokens are ahead, and the last token is the end of input. -/
structure Reading.Within (bound : Nat) (r : Reading) : Prop where
  isSealed : r.cursor.Sealed
  left : r.cursor.ahead.length < bound

theorem Reading.Within.mono {bound bound' : Nat} {r : Reading} (h : r.Within bound)
    (hb : bound ≤ bound') : r.Within bound' :=
  ⟨h.isSealed, Nat.lt_of_lt_of_le h.left hb⟩

/-- How far a reading has come from another. At least `k` tokens were passed and
no end of input, and the report has gained remarks on some of them, on each no more
than one and in their order. -/
structure Reading.Reaches (k : Nat) (r r' : Reading) : Prop where
  way : ∃ (ts : List Token) (remarks : List (Remark × Token)),
    r.cursor.Moves ts r'.cursor ∧ Without .eof ts ∧ k ≤ ts.length ∧
      (remarks.map (·.2)).Sublist ts ∧ r'.report = r.report.remarkAll remarks

namespace Reading.Reaches

variable {j k bound : Nat} {r r' r'' : Reading}

theorem moves (h : r.Reaches k r') :
    ∃ ts, r.cursor.Moves ts r'.cursor ∧ Without .eof ts ∧ k ≤ ts.length := by
  obtain ⟨ts, -, hm, hw, hk, -, -⟩ := h.way
  exact ⟨ts, hm, hw, hk⟩

/-- Remarks are on tokens of the list. -/
theorem report (h : r.Reaches k r') : ∃ remarks : List (Remark × Token),
    (∀ m ∈ remarks, m.2 ∈ r.cursor.tokens) ∧ r'.report = r.report.remarkAll remarks := by
  obtain ⟨ts, remarks, hm, -, -, hsub, hr⟩ := h.way
  refine ⟨remarks, fun m hmem => ?_, hr⟩
  have hts : m.2 ∈ ts := hsub.subset (List.mem_map_of_mem hmem)
  have hrest : m.2 ∈ r.cursor.rest := by
    rw [hm.rest]
    exact List.mem_append_left _ hts
  exact List.mem_append_right _ hrest

theorem of_moves {ts : List Token} (hm : r.cursor.Moves ts r'.cursor) (hw : Without .eof ts)
    (hr : r'.report = r.report) : r.Reaches ts.length r' :=
  ⟨ts, [], hm, hw, Nat.le_refl _, List.nil_sublist _, by rw [hr, Report.remarkAll_nil]⟩

/-- A token is passed and remarked on. -/
theorem of_remark {t : Token} (hm : r.cursor.Moves [t] r'.cursor) (hk : t.kind ≠ .eof)
    {m : Remark}
    (hr : r'.report = r.report.addWarning (r.report.diagnose m.code m.message t)) :
    r.Reaches 1 r' :=
  ⟨[t], [(m, t)], hm, by simp [hk], Nat.le_refl _, List.Sublist.refl _,
    by rw [hr, Report.remarkAll_singleton]⟩

theorem of_eq (hc : r'.cursor = r.cursor) (hr : r'.report = r.report) : r.Reaches 0 r' := by
  have hm : r.cursor.Moves [] r'.cursor := by
    rw [hc]
    exact .refl _
  exact of_moves hm without_nil hr

theorem refl (r : Reading) : r.Reaches 0 r := of_eq rfl rfl

theorem tokens (h : r.Reaches k r') : r'.cursor.tokens = r.cursor.tokens := by
  obtain ⟨ts, hm, -, -⟩ := h.moves
  exact hm.tokens

theorem ahead (h : r.Reaches k r') : r'.cursor.ahead.length + k ≤ r.cursor.ahead.length := by
  obtain ⟨ts, hm, -, hk⟩ := h.moves
  have := hm.length_ahead
  omega

theorem isSealed (h : r.Reaches k r') (hs : r.cursor.Sealed) : r'.cursor.Sealed := by
  obtain ⟨ts, hm, -, -⟩ := h.moves
  exact hm.isSealed hs

theorem within (h : r.Reaches k r') (hw : r.Within bound) : r'.Within bound := by
  have hahead := h.ahead
  have hleft := hw.left
  exact ⟨h.isSealed hw.isSealed, by omega⟩

/-- A token that was read is a token less ahead. -/
theorem within_pred (h : r.Reaches 1 r') (hw : r.Within (bound + 1)) : r'.Within bound := by
  have hahead := h.ahead
  have hleft := hw.left
  exact ⟨h.isSealed hw.isSealed, by omega⟩

theorem mono (h : r.Reaches k r') (hj : j ≤ k) : r.Reaches j r' := by
  obtain ⟨ts, remarks, hm, hw, hk, hsub, hr⟩ := h.way
  exact ⟨ts, remarks, hm, hw, by omega, hsub, hr⟩

theorem trans (h : r.Reaches j r') (h' : r'.Reaches k r'') : r.Reaches (j + k) r'' := by
  obtain ⟨ts, as, hm, hw, hj, has, hr⟩ := h.way
  obtain ⟨us, bs, hm', hw', hk, hbs, hr'⟩ := h'.way
  refine ⟨ts ++ us, as ++ bs, hm.trans hm', by simp [hw, hw'], ?_, ?_, ?_⟩
  · rw [List.length_append]
    omega
  · rw [List.map_append]
    exact has.append hbs
  · rw [hr', hr, Report.remarkAll_append]

end Reading.Reaches

section

variable {σ α β : Type} {view : σ → Reading} {j k : Nat} {deep deep' : Prop} {r r' : Reading}
  {x y : EStateM.Result Failure σ α} {s : σ}

/-- How a step ends that started at a reading. Success takes at least `k` tokens,
failure is a fault at the token under the cursor, and it is a fault for depth only
if `deep`. -/
inductive Orderly (view : σ → Reading) (k : Nat) (deep : Prop) (r : Reading) :
    EStateM.Result Failure σ α → Prop where
  | ok {a : α} {s : σ} (h : r.Reaches k (view s)) : Orderly view k deep r (.ok a s)
  | fault {cause : Fault} {r' : Reading} {s : σ} (h : r.Reaches 0 r')
      (hd : cause = .tooDeep → deep) (hc : (view s).cursor = r'.cursor)
      (he : (view s).report =
        r'.report.addError (r'.report.diagnose Fault.code cause.message r'.cursor.here)) :
      Orderly view k deep r (.error (.fault cause
        (r'.report.diagnose Fault.code cause.message r'.cursor.here) r'.cursor.here) s)

/-- Two steps end in the same way, and in an orderly one. -/
structure Alike (view : σ → Reading) (k : Nat) (deep : Prop) (r : Reading)
    (x y : EStateM.Result Failure σ α) : Prop where
  eq : x = y
  orderly : Orderly view k deep r x

theorem Orderly.alike (h : Orderly view k deep r x) : Alike view k deep r x x := ⟨rfl, h⟩

/-- What came before counts as well. -/
theorem Orderly.after (h : r.Reaches j r') (ho : Orderly view k deep r' x) :
    Orderly view (j + k) deep r x := by
  cases ho with
  | ok hr => exact .ok (h.trans hr)
  | fault hr hd hc he => exact .fault ((h.trans hr).mono (Nat.zero_le _)) hd hc he

theorem Orderly.mono (h : Orderly view k deep r x) (hj : j ≤ k) (hdeep : deep → deep') :
    Orderly view j deep' r x := by
  cases h with
  | ok hr => exact .ok (hr.mono hj)
  | fault hr hd hc he => exact .fault hr (fun h => hdeep (hd h)) hc he

theorem Alike.mono (h : Alike view k deep r x y) (hj : j ≤ k) : Alike view j deep r x y :=
  ⟨h.eq, h.orderly.mono hj id⟩

theorem Alike.deepen (h : Alike view k deep r x y) (hdeep : deep → deep') :
    Alike view k deep' r x y :=
  ⟨h.eq, h.orderly.mono (Nat.le_refl _) hdeep⟩

theorem Alike.after (h : r.Reaches j r') (ha : Alike view k deep r' x y) :
    Alike view (j + k) deep r x y :=
  ⟨ha.eq, ha.orderly.after h⟩

theorem Alike.bind_add {m m' : EStateM Failure σ α} {f f' : α → EStateM Failure σ β}
    (h : Alike view j deep (view s) (m s) (m' s))
    (hf : ∀ a t, m s = .ok a t → (view s).Reaches j (view t) →
      Alike view k deep (view t) (f a t) (f' a t)) :
    Alike view (j + k) deep (view s) ((m >>= f) s) ((m' >>= f') s) := by
  obtain ⟨heq, ho⟩ := h
  cases hm : m s with
  | ok a t =>
      rw [hm] at heq ho
      cases ho with
      | ok hr =>
          rw [bind_ok hm, bind_ok heq.symm]
          exact (hf a t hm hr).after hr
  | error e t =>
      rw [hm] at heq ho
      rw [bind_error hm, bind_error heq.symm]
      cases ho with
      | fault hr hd hc he => exact ⟨rfl, .fault hr hd hc he⟩

/-- One step and then others: what counts is what the others take. -/
theorem Alike.bind {m m' : EStateM Failure σ α} {f f' : α → EStateM Failure σ β}
    (h : Alike view j deep (view s) (m s) (m' s))
    (hf : ∀ a t, m s = .ok a t → (view s).Reaches j (view t) →
      Alike view k deep (view t) (f a t) (f' a t)) :
    Alike view k deep (view s) ((m >>= f) s) ((m' >>= f') s) :=
  (h.bind_add hf).mono (Nat.le_add_left _ _)

/-- One step and then others: what counts is what the first takes. -/
theorem Alike.bind_first {m m' : EStateM Failure σ α} {f f' : α → EStateM Failure σ β}
    (h : Alike view j deep (view s) (m s) (m' s))
    (hf : ∀ a t, m s = .ok a t → (view s).Reaches j (view t) →
      Alike view 0 deep (view t) (f a t) (f' a t)) :
    Alike view j deep (view s) ((m >>= f) s) ((m' >>= f') s) :=
  h.bind_add hf

theorem Alike.pure (a : α) (s : σ) :
    Alike view 0 deep (view s) ((Pure.pure a : EStateM Failure σ α) s)
      ((Pure.pure a : EStateM Failure σ α) s) :=
  Orderly.alike (.ok (.refl _))

/-- Two steps that are alike wherever fewer than `bound` tokens are ahead. -/
def Tame (view : σ → Reading) (bound : Nat) (deep : Prop) (m m' : EStateM Failure σ α) : Prop :=
  ∀ s, (view s).Within bound → Alike view 0 deep (view s) (m s) (m' s)

end

/-- Two numbers that do not matter where so many tokens are ahead: they are the
same, or both are larger. -/
def Enough (left n n' : Nat) : Prop :=
  n = n' ∨ (left < n ∧ left < n')

theorem Enough.mono {left left' n n' : Nat} (h : Enough left n n') (hl : left' ≤ left) :
    Enough left' n n' := by
  rcases h with h | ⟨h, h'⟩
  · exact .inl h
  · exact .inr ⟨by omega, by omega⟩

theorem Enough.zero {left n : Nat} (h : Enough left 0 n) : n = 0 := by
  rcases h with h | h
  · exact h.symm
  · omega

theorem Enough.succ {left n n' : Nat} (h : Enough left (n + 1) n') :
    ∃ j, n' = j + 1 ∧ ∀ left', left' < left → Enough left' n j := by
  rcases h with rfl | ⟨h, h'⟩
  · exact ⟨n, rfl, fun _ _ => .inl rfl⟩
  · exact ⟨n' - 1, by omega, fun left' hl => .inr ⟨by omega, by omega⟩⟩

/-! ## Single steps -/

namespace Read

section

variable {k : Nat} {deep : Prop} {r : Reading}

/-- Two reading steps end in the same way, and in an orderly one. -/
abbrev Alike {α : Type} (k : Nat) (deep : Prop) (r : Reading)
    (x y : EStateM.Result Failure Reading α) : Prop :=
  StageZero.Alike (fun r => r) k deep r x y

/-- Two readers that are alike wherever fewer than `bound` tokens are ahead. -/
abbrev Tame {α : Type} (bound : Nat) (deep : Prop) (m m' : Read α) : Prop :=
  StageZero.Tame (fun r => r) bound deep m m'

theorem note_cases (e : Event) (r : Reading) :
    ∃ r', note e r = .ok () r' ∧ r'.cursor = r.cursor ∧ r'.report = r.report := by
  obtain ⟨cursor, report, debug, trace⟩ := r
  cases debug with
  | false => exact ⟨_, rfl, rfl, rfl⟩
  | true => exact ⟨_, rfl, rfl, rfl⟩

theorem alike_note (e : Event) : Alike 0 deep r (note e r) (note e r) := by
  obtain ⟨r', heq, hc, hr⟩ := note_cases e r
  rw [heq]
  exact Orderly.alike (.ok (.of_eq hc hr))

theorem advance_eq : advance r = .ok r.cursor.here (r.move r.cursor.next) := rfl

theorem alike_advance (hs : r.cursor.Sealed) (hk : r.cursor.here.kind ≠ .eof) :
    Alike 1 deep r (advance r) (advance r) := by
  have hmoves : r.cursor.Moves [r.cursor.here] (r.move r.cursor.next).cursor := hs.moves_next hk
  have hreach : r.Reaches 1 (r.move r.cursor.next) := .of_moves hmoves (by simp [hk]) rfl
  exact Orderly.alike (.ok hreach)

theorem alike_fail {α : Type} (cause : Fault) (hd : cause = .tooDeep → deep) :
    Alike (α := α) k deep r (fail cause r) (fail cause r) := by
  have hfail : ∃ r', fail (α := α) cause r = .error (.fault cause
      (r.report.diagnose Fault.code cause.message r.cursor.here) r.cursor.here) r' ∧
      r'.cursor = r.cursor ∧ r'.report =
        r.report.addError (r.report.diagnose Fault.code cause.message r.cursor.here) := by
    obtain ⟨cursor, report, debug, trace⟩ := r
    cases debug with
    | false => exact ⟨_, rfl, rfl, rfl⟩
    | true => exact ⟨_, rfl, rfl, rfl⟩
  obtain ⟨r', heq, hc, he⟩ := hfail
  rw [heq]
  exact Orderly.alike (.fault (.refl r) hd hc he)

theorem alike_expect {kind : TokenKind} {cause : Fault} (hs : r.cursor.Sealed)
    (hk : kind ≠ .eof) (hd : cause ≠ .tooDeep) :
    Alike 1 deep r (expect kind cause r) (expect kind cause r) := by
  unfold expect
  rw [bind_ok current_eq]
  refine (alike_note _).bind fun _ t _ ht => ?_
  rw [bind_ok (check_eq kind)]
  by_cases hhere : t.cursor.here.kind = kind
  · rw [if_pos (decide_eq_true hhere)]
    exact alike_advance (ht.isSealed hs) (by rw [hhere]; exact hk)
  · rw [if_neg (by simpa using hhere)]
    exact alike_fail cause fun h => absurd h hd

theorem alike_accept {kind : TokenKind} (hs : r.cursor.Sealed) (hk : kind ≠ .eof) :
    Alike 0 deep r (accept kind r) (accept kind r) := by
  unfold accept
  rw [bind_ok (check_eq kind)]
  by_cases hhere : r.cursor.here.kind = kind
  · rw [if_pos (decide_eq_true hhere)]
    refine (alike_advance hs (by rw [hhere]; exact hk)).bind fun _ t _ _ => ?_
    exact .pure _ t
  · rw [if_neg (by simpa using hhere)]
    exact .pure _ r

/-- A token is read and mentioned at once: it is the one that the remark is on. -/
theorem alike_mention (m : Remark) (hs : r.cursor.Sealed) (hk : r.cursor.here.kind ≠ .eof) :
    Alike 1 deep r ((advance >>= fun tok => remark m tok) r)
      ((advance >>= fun tok => remark m tok) r) := by
  have hmoves : r.cursor.Moves [r.cursor.here] (r.move r.cursor.next).cursor := hs.moves_next hk
  exact Orderly.alike (.ok (.of_remark hmoves hk rfl))

theorem alike_skipLines : Alike 0 deep r (skipLines r) (skipLines r) := by
  obtain ⟨lines, hm, -⟩ := r.cursor.skipNewlines_moves
  have hreach : r.Reaches (lineYield lines).length (r.move r.cursor.skipNewlines) :=
    .of_moves hm (by simp) rfl
  exact Orderly.alike (.ok (hreach.mono (Nat.zero_le _)))

theorem alike_elseFollows : Alike 0 deep r (elseFollows r) (elseFollows r) := by
  show Alike 0 deep r ((if r.cursor.skipNewlines.here.kind = .keyword .elseK then _ else _ :
    Read Bool) r) ((if r.cursor.skipNewlines.here.kind = .keyword .elseK then _ else _ :
    Read Bool) r)
  split
  · exact alike_skipLines.bind fun _ t _ _ => .pure _ t
  · exact .pure _ r

theorem alike_skip (hs : r.cursor.Sealed) (hk : r.cursor.here.kind ≠ .eof) :
    Alike 1 deep r (skip r) (skip r) := by
  by_cases hu : r.cursor.here.kind = .unknown
  · have heq : skip r = ((advance >>= fun tok => remark .illegalCharacter tok) >>= fun _ =>
        note (.skipped r.cursor.here)) r := by
      unfold skip
      rw [bind_ok advance_eq, if_pos hu, bind_assoc, bind_ok advance_eq]
    rw [heq]
    exact (alike_mention _ hs hk).bind_first fun _ _ _ _ => alike_note _
  · have heq : skip r = (advance >>= fun _ => note (.skipped r.cursor.here)) r := by
      unfold skip
      rw [bind_ok advance_eq, if_neg hu, bind_ok advance_eq]
    rw [heq]
    exact (alike_advance hs hk).bind_first fun _ _ _ _ => alike_note _

end

/-! ## Rounds of the loops -/

/-- One round of a loop over arguments: the comma, unless it is the first, and an
argument. -/
def argumentRound (inner : Read Fragment) (first : Bool) : Read String := do
  unless first do
    let _ ← expect .comma .unseparatedArguments
  let arg ← inner
  return arg.code

theorem builtinArguments_succ (inner : Read Fragment) (first : Bool) (n : Nat) :
    builtinArguments inner first (n + 1) = (do
      let arg ← argumentRound inner first
      let rest ← builtinArguments inner false n
      return arg :: rest) := by
  cases first <;> simp [builtinArguments, argumentRound]

theorem argumentList_succ (inner : Read Fragment) (first : Bool) (n : Nat) :
    argumentList inner first (n + 1) = (do
      let tok ← current
      if tok.kind = .rparen ∨ tok.kind = .eof then return []
      let arg ← argumentRound inner first
      let rest ← argumentList inner false n
      return arg :: rest) := by
  cases first <;> simp [argumentList, argumentRound]

/-- One round of the parameter loop: the comma, unless it is the first, and a
name. -/
def parameterRound (first : Bool) : Read String := do
  unless first do
    let _ ← expect .comma .unseparatedParameters
  let name ← expect .identifier .missingParameter
  return name.value

theorem parameters_succ (first : Bool) (n : Nat) :
    parameters first (n + 1) = (do
      let tok ← current
      if tok.kind = .rparen ∨ tok.kind = .eof then return []
      let name ← parameterRound first
      let rest ← parameters false n
      return name :: rest) := by
  cases first <;> simp [parameters, parameterRound]

section

variable {inner inner' : Read Fragment} {types : TypeTable} {bound : Nat} {deep : Prop}
  {r : Reading}

theorem alike_argumentRound (hi : Tame bound deep inner inner')
    (hw : r.Within bound) (first : Bool) :
    Alike (!first).toNat deep r (argumentRound inner first r) (argumentRound inner' first r) := by
  have harg : ∀ r : Reading, r.Within bound → Alike 0 deep r
      ((inner >>= fun arg => pure arg.code) r) ((inner' >>= fun arg => pure arg.code) r) :=
    fun r hw => (hi r hw).bind fun _ t _ _ => .pure _ t
  cases first with
  | true => exact harg r hw
  | false =>
      refine (alike_expect hw.isSealed (by simp) (by simp)).bind_first fun _ t _ ht => ?_
      exact harg t (ht.within hw)

theorem alike_parameterRound (hs : r.cursor.Sealed) (first : Bool) :
    Alike 1 deep r (parameterRound first r) (parameterRound first r) := by
  have hname : ∀ r : Reading, r.cursor.Sealed → Alike 1 deep r
      ((expect .identifier .missingParameter >>= fun name => pure name.value) r)
      ((expect .identifier .missingParameter >>= fun name => pure name.value) r) :=
    fun r hs => (alike_expect hs (by simp) (by simp)).bind_first fun _ t _ _ => .pure _ t
  cases first with
  | true => exact hname r hs
  | false =>
      refine (alike_expect hs (by simp) (by simp)).bind fun _ t _ ht => ?_
      exact hname t (ht.isSealed hs)

/-! ## Expressions -/

theorem alike_builtinArguments (hi : Tame bound deep inner inner')
    (hw : r.Within bound) (first : Bool) (n : Nat) :
    Alike 0 deep r (builtinArguments inner first n r) (builtinArguments inner' first n r) := by
  induction n generalizing first r with
  | zero => exact .pure _ r
  | succ n ih =>
      rw [builtinArguments_succ, builtinArguments_succ]
      refine (alike_argumentRound hi hw first).bind fun _ r₁ _ h₁ => ?_
      exact (ih (h₁.within hw) false).bind fun _ r₂ _ _ => .pure _ r₂

theorem alike_builtin (hi : Tame bound deep inner inner') (hw : r.Within (bound + 1))
    {word : Builtin} (hk : r.cursor.here.kind = .builtin word) :
    Alike 1 deep r (builtin inner r) (builtin inner' r) := by
  refine (alike_advance hw.isSealed (by rw [hk]; simp)).bind_first fun tok r₁ hm h₁ => ?_
  cases hm
  rw [hk]
  have hw₁ := h₁.within_pred hw
  refine (alike_expect hw₁.isSealed (by simp) (by simp)).bind fun _ r₂ _ h₂ => ?_
  have hw₂ := h₂.within hw₁
  refine (alike_builtinArguments hi hw₂ true _).bind fun _ r₃ _ h₃ => ?_
  refine (alike_expect (h₃.within hw₂).isSealed (by simp) (by simp)).bind fun _ r₄ _ _ => ?_
  exact .pure _ r₄

/-- The first round need not read a token, so it counts for one more. -/
theorem alike_argumentList (hi : Tame bound deep inner inner')
    (hw : r.Within bound) (first : Bool) {n n' : Nat}
    (hn : Enough (r.cursor.ahead.length + first.toNat) n n') :
    Alike 0 deep r (argumentList inner first n r) (argumentList inner' first n' r) := by
  induction n generalizing first n' r with
  | zero =>
      rw [hn.zero]
      exact .pure _ r
  | succ n ih =>
      obtain ⟨j, rfl, hj⟩ := hn.succ
      rw [argumentList_succ, argumentList_succ, bind_ok current_eq, bind_ok current_eq]
      split
      · exact .pure _ r
      · refine (alike_argumentRound hi hw first).bind fun _ r₁ _ h₁ => ?_
        -- the first round may leave as many tokens ahead as before
        have hlt : r₁.cursor.ahead.length < r.cursor.ahead.length + first.toNat := by
          have hahead := h₁.ahead
          cases first <;> simp at hahead ⊢ <;> omega
        refine (ih (h₁.within hw) false (hj _ hlt)).bind fun _ r₂ _ _ => ?_
        exact .pure _ r₂

theorem alike_callArguments (hi : Tame bound deep inner inner')
    (hw : r.Within bound) :
    Alike 0 deep r (callArguments inner r) (callArguments inner' r) := by
  unfold callArguments
  rw [bind_ok remaining_eq, bind_ok remaining_eq]
  refine (alike_argumentList hi hw true (.inl rfl)).bind fun _ r₁ _ h₁ => ?_
  refine (alike_expect (h₁.within hw).isSealed (by simp) (by simp)).bind fun _ r₂ _ _ => ?_
  exact .pure _ r₂

theorem alike_reference (hi : Tame bound deep inner inner')
    (hw : r.Within (bound + 1)) (hk : r.cursor.here.kind ≠ .eof) :
    Alike 1 deep r (reference types inner r) (reference types inner' r) := by
  refine (alike_advance hw.isSealed hk).bind_first fun tok r₁ _ h₁ => ?_
  have hw₁ := h₁.within_pred hw
  refine (alike_accept hw₁.isSealed (by simp)).bind fun called r₂ _ h₂ => ?_
  cases called with
  | true => exact (alike_callArguments hi (h₂.within hw₁)).bind fun _ r₃ _ _ => .pure _ r₃
  | false => exact .pure _ r₂

theorem alike_group (hi : Tame bound deep inner inner')
    (hw : r.Within (bound + 1)) (hk : r.cursor.here.kind ≠ .eof) :
    Alike 1 deep r (group inner r) (group inner' r) := by
  refine (alike_advance hw.isSealed hk).bind_first fun _ r₁ _ h₁ => ?_
  have hw₁ := h₁.within_pred hw
  refine (hi r₁ hw₁).bind fun _ r₂ _ h₂ => ?_
  refine (alike_expect (h₂.within hw₁).isSealed (by simp) (by simp)).bind fun _ r₃ _ _ => ?_
  exact .pure _ r₃

/-- Nothing happens at a token that starts no part. Every part takes a token. -/
theorem alike_part? (types : TypeTable) (hi : Tame bound deep inner inner')
    (hw : r.Within (bound + 1)) :
    (part? types inner r = .ok none r ∧ part? types inner' r = .ok none r) ∨
      Alike 1 deep r (part? types inner r) (part? types inner' r) := by
  unfold part?
  rw [bind_ok current_eq, bind_ok current_eq]
  cases hk : r.cursor.here.kind with
  | string | integer | operator _ =>
      refine .inr ((alike_advance hw.isSealed (by rw [hk]; simp)).bind_first fun _ r₁ _ _ => ?_)
      exact .pure _ r₁
  | builtin word => exact .inr ((alike_builtin hi hw hk).bind_first fun _ r₁ _ _ => .pure _ r₁)
  | identifier =>
      refine .inr ((alike_reference hi hw (by rw [hk]; simp)).bind_first fun _ r₁ _ _ => ?_)
      exact .pure _ r₁
  | lparen =>
      refine .inr ((alike_group hi hw (by rw [hk]; simp)).bind_first fun _ r₁ _ _ => ?_)
      exact .pure _ r₁
  | _ => exact .inl ⟨rfl, rfl⟩

theorem alike_parts (hi : Tame bound deep inner inner') (hw : r.Within (bound + 1))
    {n n' : Nat} (hn : Enough r.cursor.ahead.length n n') :
    Alike 0 deep r (parts types inner n r) (parts types inner' n' r) := by
  induction n generalizing n' r with
  | zero =>
      rw [hn.zero]
      exact .pure _ r
  | succ n ih =>
      obtain ⟨j, rfl, hj⟩ := hn.succ
      unfold parts
      rcases alike_part? types hi hw with ⟨hnone, hnone'⟩ | hpart
      · rw [bind_ok hnone, bind_ok hnone']
        exact .pure _ r
      · refine hpart.bind fun p r₁ _ h₁ => ?_
        cases p with
        | none => exact .pure _ r₁
        | some p =>
            have hlt := h₁.ahead
            refine (ih (h₁.within hw) (hj _ (by omega))).bind fun _ r₂ _ _ => ?_
            exact .pure _ r₂

theorem alike_expressionOver (hi : Tame bound deep inner inner')
    (hw : r.Within (bound + 1)) :
    Alike 0 deep r (expressionOver types inner r) (expressionOver types inner' r) := by
  unfold expressionOver
  rw [bind_ok remaining_eq, bind_ok remaining_eq]
  refine (alike_parts hi hw (.inl rfl)).bind fun _ r₁ _ _ => ?_
  exact (alike_note _).bind fun _ r₂ _ _ => .pure _ r₂

end

/-- Depths that exceed the tokens ahead give the same, and none of them is ever
too small. -/
theorem alike_expression (types : TypeTable) {depth depth' : Nat} {r : Reading}
    (hs : r.cursor.Sealed) (hd : Enough r.cursor.ahead.length depth depth') :
    Alike 0 (depth ≤ r.cursor.ahead.length) r (Read.expression types depth r)
      (Read.expression types depth' r) := by
  induction depth generalizing depth' r with
  | zero =>
      rw [hd.zero]
      exact alike_fail _ fun _ => Nat.zero_le _
  | succ depth ih =>
      obtain ⟨j, rfl, hj⟩ := hd.succ
      -- inner expressions stand behind a parenthesis, where fewer tokens are ahead
      have hi : Tame r.cursor.ahead.length (depth + 1 ≤ r.cursor.ahead.length)
          (Read.expression types depth) (Read.expression types j) := by
        intro r₁ hw
        refine (ih hw.isSealed (hj _ hw.left)).deepen fun hle => ?_
        exact Nat.lt_of_le_of_lt hle hw.left
      exact alike_expressionOver hi ⟨hs, Nat.lt_succ_self _⟩

theorem alike_parameters {deep : Prop} {r : Reading} (hs : r.cursor.Sealed) (first : Bool)
    {n n' : Nat} (hn : Enough r.cursor.ahead.length n n') :
    Alike 0 deep r (parameters first n r) (parameters first n' r) := by
  induction n generalizing first n' r with
  | zero =>
      rw [hn.zero]
      exact .pure _ r
  | succ n ih =>
      obtain ⟨j, rfl, hj⟩ := hn.succ
      rw [parameters_succ, parameters_succ, bind_ok current_eq, bind_ok current_eq]
      split
      · exact .pure _ r
      · refine (alike_parameterRound hs first).bind fun _ r₁ _ h₁ => ?_
        have hlt := h₁.ahead
        refine (ih (h₁.isSealed hs) false (hj _ (by omega))).bind fun _ r₂ _ _ => ?_
        exact .pure _ r₂

end Read

end StageZero
