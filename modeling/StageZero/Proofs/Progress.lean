import StageZero.Proofs.Handling

/-!
# Every run makes progress

No step goes back, none goes beyond the last token, and none passes an end of
input. `Method` lists the steps of the generator with the kinds of token at which
they are called, `Advances` is what each of them does to the position, and the
guards are those of the callers: the table of statements hands a handler the kind it
was looked up with, and a loop that stops at the end of input is not in its body
there.

That runs end is not shown by following them. The definitions recurse on counts and
on a depth, so a run has an end by construction, and what is left to show is that
the numbers have no part in it. Any counts and any depths that exceed the tokens
ahead give the same, and a run is the loop that goes round until the input ends. The
measure behind this is the number of tokens ahead: a round of a loop and a level of
depth take at least one, but for the first round of an argument list, which counts
for one more.
-/

namespace StageZero

open StageZero.Tree

/-! ## Positions -/

namespace Cursor

theorem pos_lt_length_tokens (c : Cursor) : c.pos < c.tokens.length := by
  rw [tokens, List.length_append, List.length_reverse, List.length_cons, pos]
  omega

theorem Moves.pos {c c' : Cursor} {ts : List Token} (h : c.Moves ts c') :
    c'.pos = c.pos + ts.length := by
  unfold Cursor.pos
  rw [h.passed, List.length_append, List.length_reverse, Nat.add_comm]

/-- What was moved over is what stands between the two positions. -/
theorem Moves.getElem?_tokens {c c' : Cursor} {ts : List Token} (h : c.Moves ts c') {i : Nat}
    (hi : c.pos ≤ i) (hi' : i < c'.pos) : c.tokens[i]? = ts[i - c.pos]? := by
  have htokens : c.tokens = c.passed.reverse ++ (ts ++ c'.rest) := by
    rw [← h.rest]
    rfl
  have hpos := h.pos
  have hlength : c.passed.reverse.length = c.pos := List.length_reverse
  rw [htokens, List.getElem?_append_right (by omega), hlength,
    List.getElem?_append_left (by omega)]

theorem sealed_iff_tokens (c : Cursor) :
    c.Sealed ↔ ∀ t ∈ c.tokens.getLast?, t.kind = .eof := by
  have hlast : c.tokens.getLast? = some c.last := by
    show (c.passed.reverse ++ c.rest).getLast? = _
    rw [List.getLast?_append, getLast?_rest]
    rfl
  rw [hlast, Sealed]
  simp

end Cursor

/-- A state of a run over tokens: the cursor is somewhere in their list. -/
def State.Over (tokens : List Token) (s : State) : Prop :=
  s.cursor.tokens = (Cursor.ofTokens tokens).tokens

theorem State.Over.isSealed {tokens : List Token} {s : State} (h : s.Over tokens) :
    s.cursor.Sealed := by
  rw [Cursor.sealed_iff_tokens, show s.cursor.tokens = _ from h, ← Cursor.sealed_iff_tokens]
  exact Cursor.sealed_ofTokens tokens

/-- One state lies ahead of another in the same list, and there is no end of input
between them. -/
structure Advances (s t : State) : Prop where
  tokens : t.cursor.tokens = s.cursor.tokens
  le : s.cursor.pos ≤ t.cursor.pos
  lt : t.cursor.pos < s.cursor.tokens.length
  passed : ∀ i, s.cursor.pos ≤ i → i < t.cursor.pos →
    ∀ tok ∈ s.cursor.tokens[i]?, tok.kind ≠ .eof

section

variable {α : Type} {k : Nat} {deep : Prop} {s t : State} {x : EStateM.Result Failure State α}

theorem Cursor.Moves.advances {ts : List Token} (hm : s.cursor.Moves ts t.cursor)
    (hw : Without .eof ts) : Advances s t := by
  refine ⟨hm.tokens, ?_, ?_, fun i hi hi' tok htok => ?_⟩
  · rw [hm.pos]
    omega
  · rw [← hm.tokens]
    exact t.cursor.pos_lt_length_tokens
  · rw [hm.getElem?_tokens hi hi'] at htok
    exact hw tok (List.mem_of_getElem? htok)

theorem Orderly.advances (h : Orderly State.toReading k deep s.toReading x) :
    Advances s (ending x) := by
  cases h with
  | ok hr =>
      obtain ⟨ts, hm, hw, -⟩ := hr.moves
      exact hm.advances hw
  | fault hr hd hc he =>
      obtain ⟨ts, hm, hw, -⟩ := hr.moves
      rw [← hc] at hm
      exact Cursor.Moves.advances hm hw

/-- A step with an answer has taken as many tokens as it has to. -/
theorem Orderly.pos_le (h : Orderly State.toReading k deep s.toReading x) :
    (∃ a t, x = .ok a t ∧ s.cursor.pos + k ≤ t.cursor.pos) ∨
      ∃ cause d tok t, x = .error (.fault cause d tok) t ∧ (cause = .tooDeep → deep) := by
  cases h with
  | ok hr =>
      obtain ⟨ts, hm, -, hk⟩ := hr.moves
      refine .inl ⟨_, _, rfl, ?_⟩
      rw [hm.pos]
      omega
  | fault hr hd hc he => exact .inr ⟨_, _, _, _, rfl, hd⟩

end

/-! ## The steps of the generator -/

/-- The steps of the generator, with the kinds of token they are called at. A
statement is generated by what the table of statements has for its first token. -/
inductive Method : {α : Type} → (TokenKind → Prop) → Gen α → Prop where
  | run (depth : Nat) : Method (fun _ => True) (Gen.run depth)
  | topLevel (depth : Nat) : Method (· ≠ .eof) (Gen.topLevel depth)
  | statement (depth : Nat) : Method (fun _ => True) (Gen.statement depth)
  | handler (depth : Nat) {kind : TokenKind} {handler : Gen Unit}
      (h : Gen.statementFor? (depth + 1) (Gen.statement depth) kind = some handler) :
      Method (· = kind) handler
  | skip : Method (· ≠ .eof) (Read.skip : Gen Unit)
  | block (depth : Nat) (place : String) :
      Method (fun _ => True) (Gen.block (Gen.statement depth) place)
  | condition (depth : Nat) (word : Token) :
      Method (fun _ => True) (Gen.condition (Gen.expression depth) word)
  | branch (depth : Nat) (head : String) :
      Method (· = .keyword .ifK)
        (Gen.branch (Gen.expression (depth + 1)) (Gen.statement depth) head)
  | alternatives (depth n : Nat) :
      Method (fun _ => True)
        (Gen.alternatives (Gen.expression (depth + 1)) (Gen.statement depth) n)
  | elseFollows : Method (fun _ => True) (Read.elseFollows : Gen Bool)
  | parameters (first : Bool) (n : Nat) :
      Method (fun _ => True) (Read.parameters first n : Gen (List String))
  | expression (depth : Nat) : Method (fun _ => True) (Gen.expression depth)
  | builtin (depth : Nat) (word : Builtin) : Method (· = .builtin word) (Gen.builtin depth)
  | reference (depth : Nat) : Method (· = .identifier) (Gen.reference depth)
  | callArguments (depth : Nat) : Method (fun _ => True) (Gen.callArguments depth)
  | advance : Method (· ≠ .eof) (Read.advance : Gen Token)
  | accept {kind : TokenKind} (hk : kind ≠ .eof) :
      Method (fun _ => True) (Read.accept kind : Gen Bool)
  | expect {kind : TokenKind} {cause : Fault} (hk : kind ≠ .eof) (hc : cause ≠ .tooDeep) :
      Method (fun _ => True) (Read.expect kind cause : Gen Token)
  | fail (cause : Fault) : Method (fun _ => True) (Read.fail cause : Gen Unit)
  | emit (code : String) : Method (fun _ => True) (Gen.emit code)

theorem Read.tame_self (bound : Nat) (types : TypeTable) (depth : Nat) :
    Read.Tame bound True (Read.expression types depth) (Read.expression types depth) :=
  Gen.tame_expression types (fun _ _ => .inl rfl) fun _ => trivial

theorem Gen.tame_self (bound depth : Nat) :
    Gen.Tame bound True (Gen.expression depth) (Gen.expression depth) :=
  fun s hw => Gen.alike_lift (Read.tame_self bound s.types depth s.toReading hw)

theorem Gen.steady_self (bound depth : Nat) :
    Gen.Steady bound True (Gen.statement depth) (Gen.statement depth) :=
  fun _ hw hk => (Gen.alike_statement hw.isSealed (.inl rfl) hk).deepen fun _ => trivial

/-- Every step is orderly where it is called. -/
theorem Method.orderly {α : Type} {guard : TokenKind → Prop} {m : Gen α} (h : Method guard m)
    {s : State} (hs : s.cursor.Sealed) (hg : guard s.cursor.here.kind) :
    Orderly State.toReading 0 True s.toReading (m s) := by
  have hw : s.toReading.Within (s.cursor.ahead.length + 1) := ⟨hs, Nat.lt_succ_self _⟩
  have hsame : ∀ depth left : Nat, left < s.cursor.ahead.length → Enough left depth depth :=
    fun _ _ _ => .inl rfl
  suffices halike : ∃ k, Gen.Alike k True s (m s) (m s) by
    obtain ⟨k, halike⟩ := halike
    exact halike.orderly.mono (Nat.zero_le _) id
  cases h with
  | run depth => exact ⟨0, (Gen.alike_run hs (.inl rfl)).deepen fun _ => trivial⟩
  | topLevel depth => exact ⟨1, (Gen.alike_topLevel hs (.inl rfl) hg).deepen fun _ => trivial⟩
  | statement depth =>
      exact ⟨0, (Gen.alike_statement_anywhere hs (.inl rfl)).deepen fun _ => trivial⟩
  | @handler depth kind handler h =>
      rcases Gen.alike_statementFor? (hsame (depth + 1)) (fun _ => trivial)
        (Gen.steady_self _ depth) kind with ⟨hnone, -⟩ | ⟨found, found', hfound, hfound', halike⟩
      · rw [hnone] at h
        cases h
      · cases hfound.symm.trans h
        cases hfound'.symm.trans h
        exact ⟨1, halike s hw hg⟩
  | skip => exact ⟨1, Gen.alike_lift (Read.alike_skip hs hg)⟩
  | block depth place => exact ⟨0, Gen.alike_block (Gen.steady_self _ depth) hw place⟩
  | condition depth word => exact ⟨0, Gen.alike_condition (Gen.tame_self _ depth) hw word⟩
  | branch depth head =>
      have hne : s.cursor.here.kind ≠ .eof := by
        rw [show s.cursor.here.kind = .keyword .ifK from hg]
        simp
      exact ⟨1, Gen.alike_guarded (Gen.tame_self _ _) (Gen.steady_self _ depth) hw hne _ _⟩
  | alternatives depth n =>
      exact ⟨0, Gen.alike_alternatives (Gen.tame_self _ _) (Gen.steady_self _ depth) hw (.inl rfl)⟩
  | elseFollows => exact ⟨0, Gen.alike_elseFollows⟩
  | parameters first n => exact ⟨0, Gen.alike_lift (Read.alike_parameters hs first (.inl rfl))⟩
  | expression depth => exact ⟨0, Gen.tame_self _ depth s hw⟩
  | builtin depth word =>
      exact ⟨1, Gen.alike_builtin (hsame depth) (fun _ => trivial) hw hg⟩
  | reference depth =>
      have hne : s.cursor.here.kind ≠ .eof := by
        rw [show s.cursor.here.kind = .identifier from hg]
        simp
      exact ⟨1, Gen.alike_reference (hsame depth) (fun _ => trivial) hw hne⟩
  | callArguments depth =>
      exact ⟨0, Gen.alike_callArguments (fun _ _ => .inl rfl) (fun _ => trivial) hw⟩
  | advance => exact ⟨1, Gen.alike_advance hs hg⟩
  | accept hk => exact ⟨0, Gen.alike_accept hs hk⟩
  | expect hk hc => exact ⟨1, Gen.alike_expect hs hk hc⟩
  | fail cause => exact ⟨0, Gen.alike_lift (Read.alike_fail cause fun _ => trivial)⟩
  | emit code => exact ⟨0, Gen.alike_emit code⟩

/-! ## Counts and depths -/

/-- A run is a loop without a count: it goes round until the input ends. -/
theorem Gen.run_round {s : State} (hs : s.cursor.Sealed) (depth : Nat)
    (hk : s.cursor.here.kind ≠ .eof) :
    Gen.run depth s = (Gen.topLevel depth >>= fun _ => Gen.run depth) s := by
  have hround : Gen.run depth s =
      (Gen.topLevel depth >>= fun _ => Gen.loop depth s.cursor.ahead.length) s :=
    (bind_ok Gen.remaining_eq).trans (Gen.loop_of_ne hk _)
  have horderly := (Gen.alike_topLevel hs (.inl (Eq.refl depth)) hk).orderly
  rw [hround]
  cases htop : Gen.topLevel depth s with
  | error e t => rw [bind_error htop, bind_error htop]
  | ok a t =>
      rw [bind_ok htop, bind_ok htop]
      rw [htop] at horderly
      cases horderly with
      | ok hr =>
          have hahead := hr.ahead
          have hst : t.cursor.Sealed := hr.isSealed hs
          -- the count left over still exceeds the tokens ahead
          have hcount : Enough t.cursor.ahead.length s.cursor.ahead.length
              (t.cursor.ahead.length + 1) := .inr ⟨hahead, Nat.lt_succ_self _⟩
          exact (Gen.alike_loop hst (.inl (Eq.refl depth)) hcount).eq

/-- From a state on, counts and depths beyond the tokens ahead do not matter. -/
structure Unlimited (s : State) : Prop where
  stop : ∀ depth, s.cursor.here.kind = .eof → Gen.run depth s = .ok () s
  round : ∀ depth, s.cursor.here.kind ≠ .eof →
    Gen.run depth s = (Gen.topLevel depth >>= fun _ => Gen.run depth) s
  run : ∀ depth depth', s.cursor.ahead.length < depth → s.cursor.ahead.length < depth' →
    Gen.run depth s = Gen.run depth' s
  statement : ∀ depth depth', s.cursor.ahead.length < depth → s.cursor.ahead.length < depth' →
    Gen.statement depth s = Gen.statement depth' s
  expression : ∀ depth depth', s.cursor.ahead.length < depth → s.cursor.ahead.length < depth' →
    Gen.expression depth s = Gen.expression depth' s
  program : ∀ depth n n', s.cursor.ahead.length < n → s.cursor.ahead.length < n' →
    Gen.repeatUntil [.eof] (Gen.topLevel depth) n s =
      Gen.repeatUntil [.eof] (Gen.topLevel depth) n' s
  items : ∀ depth n n', s.cursor.ahead.length < n → s.cursor.ahead.length < n' →
    Gen.repeatUntil [.rbrace, .eof] (Gen.statement depth) n s =
      Gen.repeatUntil [.rbrace, .eof] (Gen.statement depth) n' s
  alternatives : ∀ depth n n', s.cursor.ahead.length < n → s.cursor.ahead.length < n' →
    Gen.alternatives (Gen.expression (depth + 1)) (Gen.statement depth) n s =
      Gen.alternatives (Gen.expression (depth + 1)) (Gen.statement depth) n' s
  parts : ∀ types depth n n', s.cursor.ahead.length < n → s.cursor.ahead.length < n' →
    Read.parts types (Read.expression types depth) n s.toReading =
      Read.parts types (Read.expression types depth) n' s.toReading
  arguments : ∀ types depth n n', s.cursor.ahead.length + 1 < n →
    s.cursor.ahead.length + 1 < n' →
    Read.argumentList (Read.expression types depth) true n s.toReading =
      Read.argumentList (Read.expression types depth) true n' s.toReading
  parameters : ∀ n n', s.cursor.ahead.length < n → s.cursor.ahead.length < n' →
    Read.parameters true n s.toReading = Read.parameters true n' s.toReading

theorem unlimited {s : State} (hs : s.cursor.Sealed) : Unlimited s := by
  have hw : s.toReading.Within (s.cursor.ahead.length + 1) := ⟨hs, Nat.lt_succ_self _⟩
  constructor
  · intro depth hk
    exact (bind_ok Gen.remaining_eq).trans (Gen.loop_of_eof hk _)
  · exact fun depth hk => Gen.run_round hs depth hk
  · intro depth depth' h h'
    exact (Gen.alike_run hs (.inr ⟨h, h'⟩)).eq
  · intro depth depth' h h'
    exact (Gen.alike_statement_anywhere hs (.inr ⟨h, h'⟩)).eq
  · intro depth depth' h h'
    exact (Gen.alike_expression hs (.inr ⟨h, h'⟩)).eq
  · intro depth n n' h h'
    exact (Gen.alike_loop hs (.inl rfl) (.inr ⟨h, h'⟩)).eq
  · intro depth n n' h h'
    exact (Gen.alike_repeatUntil (Gen.steady_self _ depth) hw (.inr ⟨h, h'⟩)).eq
  · intro depth n n' h h'
    exact (Gen.alike_alternatives (Gen.tame_self _ _) (Gen.steady_self _ depth) hw
      (.inr ⟨h, h'⟩)).eq
  · intro types depth n n' h h'
    exact (Read.alike_parts (Read.tame_self _ types depth) hw (.inr ⟨h, h'⟩)).eq
  · intro types depth n n' h h'
    exact (Read.alike_argumentList (Read.tame_self _ types depth) hw true (.inr ⟨h, h'⟩)).eq
  · intro n n' h h'
    have halike : Read.Alike 0 True s.toReading (Read.parameters true n s.toReading)
      (Read.parameters true n' s.toReading) := Read.alike_parameters hs true (.inr ⟨h, h'⟩)
    exact halike.eq

/-! ## Runs -/

/-- A step takes a token, or it fails with a fault. -/
def Takes {α : Type} (m : Gen α) (s : State) : Prop :=
  (∃ a t, m s = .ok a t ∧ s.cursor.pos < t.cursor.pos) ∨
    ∃ cause d tok t, m s = .error (.fault cause d tok) t

theorem Orderly.takes {α : Type} {deep : Prop} {m : Gen α} {s : State}
    (h : Orderly State.toReading 1 deep s.toReading (m s)) : Takes m s := by
  rcases h.pos_le with hok | ⟨cause, d, tok, t, heq, -⟩
  · exact .inl hok
  · exact .inr ⟨cause, d, tok, t, heq⟩

/-- A statement behind line breaks is not where a block ends. -/
theorem Cursor.here_notMem_of_skipNewlines {c : Cursor}
    (h : c.skipNewlines.here.kind ∉ [TokenKind.rbrace, .eof]) :
    c.here.kind ∉ [TokenKind.rbrace, .eof] := by
  intro hk
  have hne : c.here.kind ≠ .newline := by
    intro hl
    rw [hl] at hk
    simp at hk
  rw [skipNewlines_of_ne hne] at h
  exact h hk

/-- Runs over any tokens make progress, and they end. Every step of the generator
moves ahead in the list of tokens or stays, and passes no end of input. A statement
takes a token unless a block ends behind the line breaks before it; so does every
round of the argument loop but the first, and every round of the parameter loop.
Therefore no count and no depth beyond the tokens ahead matters, and a run ends with
an answer or with a fault, which is for depth only if the tokens ahead are as many
as the depth. -/
theorem run_progresses (tokens : List Token) :
    (∀ {α : Type} {guard : TokenKind → Prop} {m : Gen α}, Method guard m →
      ∀ s : State, s.Over tokens → guard s.cursor.here.kind → Advances s (ending (m s))) ∧
    (∀ (depth : Nat) (s : State), s.Over tokens →
      s.cursor.skipNewlines.here.kind ∉ [TokenKind.rbrace, .eof] →
      Takes (Gen.statement depth) s) ∧
    (∀ (inner : Read Fragment) (first : Bool) (n : Nat),
      Read.argumentList inner first (n + 1) = (do
        let tok ← Read.current
        if tok.kind = .rparen ∨ tok.kind = .eof then return []
        let arg ← Read.argumentRound inner first
        let rest ← Read.argumentList inner false n
        return arg :: rest)) ∧
    (∀ (types : TypeTable) (depth : Nat) (s : State), s.Over tokens →
      Takes (Gen.lift (Read.argumentRound (Read.expression types depth) false)) s) ∧
    (∀ (first : Bool) (n : Nat), Read.parameters first (n + 1) = (do
      let tok ← Read.current
      if tok.kind = .rparen ∨ tok.kind = .eof then return []
      let name ← Read.parameterRound first
      let rest ← Read.parameters false n
      return name :: rest)) ∧
    (∀ (first : Bool) (s : State), s.Over tokens →
      Takes (Gen.lift (Read.parameterRound first)) s) ∧
    (∀ s : State, s.Over tokens → Unlimited s) ∧
    ∀ (depth : Nat) (report : Report) (debug : Bool),
      (∃ t, Gen.run depth (.ofTokens tokens report debug) = .ok () t) ∨
        ∃ cause d tok t, Gen.run depth (.ofTokens tokens report debug) =
            .error (.fault cause d tok) t ∧
          ((Cursor.ofTokens tokens).ahead.length < depth → cause ≠ .tooDeep) := by
  refine ⟨?_, ?_, Read.argumentList_succ, ?_, Read.parameters_succ, ?_, ?_, ?_⟩
  · intro α guard m hm s hover hg
    exact (hm.orderly hover.isSealed hg).advances
  · intro depth s hover hk
    have hhere := Cursor.here_notMem_of_skipNewlines hk
    exact (Gen.alike_statement hover.isSealed (.inl rfl) hhere).orderly.takes
  · intro types depth s hover
    have hw : s.toReading.Within (s.cursor.ahead.length + 1) :=
      ⟨hover.isSealed, Nat.lt_succ_self _⟩
    have hround := Read.alike_argumentRound (Read.tame_self _ types depth) hw false
    exact (Gen.alike_lift hround).orderly.takes
  · intro first s hover
    have hround : Read.Alike 1 True s.toReading (Read.parameterRound first s.toReading)
      (Read.parameterRound first s.toReading) := Read.alike_parameterRound hover.isSealed first
    exact (Gen.alike_lift hround).orderly.takes
  · intro s hover
    exact unlimited hover.isSealed
  · intro depth report debug
    have hs : (State.ofTokens tokens report debug).cursor.Sealed := Cursor.sealed_ofTokens tokens
    rcases (Gen.alike_run hs (.inl (Eq.refl depth))).orderly.pos_le with
      ⟨_, t, hok, -⟩ | ⟨cause, d, tok, t, hstop, hdeep⟩
    · exact .inl ⟨t, hok⟩
    · refine .inr ⟨cause, d, tok, t, hstop, fun hlt hcause => ?_⟩
      exact Nat.not_le_of_lt hlt (hdeep hcause)

/-- A word to print, and an end of input before the last token. -/
def cutTokens : List Token :=
  [⟨.newline, "\\n", .start⟩, ⟨.keyword .printK, "print", .start⟩, .eof .start,
    ⟨.rbrace, "\x7d", .start⟩]

theorem run_progresses_cut :
    ∃ s : State, s.Over cutTokens ∧ s.cursor.skipNewlines.here.kind = .keyword .printK ∧
      Takes (Gen.statement 1) s ∧ Advances s (ending (Gen.statement 1 s)) ∧
      Takes (Gen.lift (Read.parameterRound true)) s ∧ Unlimited s := by
  obtain ⟨hmethods, hstatement, -, -, -, hround, hunlimited, -⟩ := run_progresses cutTokens
  let s : State := .ofTokens cutTokens (.ofSource "") false
  have hover : s.Over cutTokens := rfl
  have hkind : s.cursor.skipNewlines.here.kind = .keyword .printK := by decide
  refine ⟨s, hover, hkind, hstatement 1 s hover ?_, ?_, hround true s hover, hunlimited s hover⟩
  · rw [hkind]
    decide
  · exact hmethods (.statement 1) s hover trivial

end StageZero
