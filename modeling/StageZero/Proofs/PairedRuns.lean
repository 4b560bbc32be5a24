import StageZero.Proofs.Pairing
import StageZero.Proofs.Programs

/-!
# Statements side by side

The comparison of two runs goes on from the readers to the generator. The states
of two runs that have come to corresponding places have the same shape: as many
lines in the main body, as many open bodies, as many functions. If the pairing is
exact they hold the same.

Statements without a block read inside a line and nothing else, so they are
compared under every pairing, and so is the head of a function. What is left are
blocks, which pass over line breaks, and branches, which look behind line breaks
for their alternatives. There two runs may part.
-/

namespace StageZero

open StageZero.Tree

/-- Kinds of the words with which a statement with a block starts. -/
def TokenKind.opensBlock : TokenKind → Bool
  | .keyword .whileK | .keyword .ifK | .keyword .functionK => true
  | _ => false

namespace Pairing

/-- Outputs of one shape, and equal if the pairing is exact. -/
structure Outputs (P : Pairing) (o o' : Output) : Prop where
  main : o.main.size = o'.main.size
  bodies : o.bodies.length = o'.bodies.length
  functions : o.functions.size = o'.functions.size
  names : o.names.size = o'.names.size
  same : P.Same o o'

/-- Two states that have come to corresponding places and have written alike. -/
structure States (P : Pairing) (s s' : State) : Prop where
  readings : P.Readings s.toReading s'.toReading
  types : P.Same s.types s'.types
  output : P.Outputs s.output s'.output

/-- Two answers of the generator agree. -/
abbrev Gen (P : Pairing) {α β : Type} (A : α → β → Prop) :
    EStateM.Result Failure State α → EStateM.Result Failure State β → Prop :=
  Agree P.States (fun s s' => P.Halted s.toReading s'.toReading) P.Failures A

variable {P : Pairing} {o o' : Output} {s s' : State}

theorem Outputs.emit (h : P.Outputs o o') {code code' : String} (hc : P.Same code code') :
    P.Outputs (o.emit code) (o'.emit code') := by
  obtain ⟨main, bodies, functions, names, indent⟩ := o
  obtain ⟨main', bodies', functions', names', indent'⟩ := o'
  have hsame := h.same.map₂ hc Output.emit
  cases bodies with
  | nil =>
      obtain rfl : bodies' = [] := List.length_eq_zero_iff.1 h.bodies.symm
      refine ⟨?_, rfl, h.functions, h.names, hsame⟩
      have hmain : main.size = main'.size := h.main
      simp [Output.emit, Output.line, hmain]
  | cons body rest =>
      obtain ⟨body', rest', rfl⟩ : ∃ body' rest', bodies' = body' :: rest' :=
        List.exists_cons_of_length_eq_add_one h.bodies.symm
      exact ⟨h.main, h.bodies, h.functions, h.names, hsame⟩

theorem Outputs.indent (h : P.Outputs o o') (f : Nat → Nat) :
    P.Outputs { o with indent := f o.indent } { o' with indent := f o'.indent } :=
  ⟨h.main, h.bodies, h.functions, h.names,
    h.same.map fun o => { o with indent := f o.indent }⟩

theorem Outputs.openFunction (h : P.Outputs o o') {header header' : String}
    (hh : P.Same header header') : P.Outputs (o.openFunction header) (o'.openFunction header') :=
  ⟨h.main, congrArg (· + 1) h.bodies, h.functions, h.names, h.same.map₂ hh Output.openFunction⟩

theorem Outputs.closeFunction (h : P.Outputs o o') {indent indent' : Nat}
    (hi : P.Same indent indent') :
    P.Outputs (o.closeFunction indent) (o'.closeFunction indent') := by
  obtain ⟨main, bodies, functions, names, depth⟩ := o
  obtain ⟨main', bodies', functions', names', depth'⟩ := o'
  have hsame := h.same.map₂ hi Output.closeFunction
  cases bodies with
  | nil =>
      obtain rfl : bodies' = [] := List.length_eq_zero_iff.1 h.bodies.symm
      exact ⟨h.main, rfl, h.functions, h.names, hsame⟩
  | cons body rest =>
      obtain ⟨body', rest', rfl⟩ : ∃ body' rest', bodies' = body' :: rest' :=
        List.exists_cons_of_length_eq_add_one h.bodies.symm
      refine ⟨h.main, Nat.succ.inj h.bodies, ?_, h.names, hsame⟩
      have hfunctions : functions.size = functions'.size := h.functions
      simp [Output.closeFunction, hfunctions]

theorem States.start {tokens tokens' : List Token}
    (h : P.Cursors (.ofTokens tokens) (.ofTokens tokens')) :
    P.States (.ofTokens tokens P.report false) (.ofTokens tokens' P.report' false) :=
  ⟨⟨h, rfl, rfl, [], [], .nil, rfl, rfl⟩, .refl _, rfl, rfl, rfl, rfl, .refl _⟩

theorem States.kind (h : P.States s s') : s'.cursor.here.kind = s.cursor.here.kind :=
  h.readings.kind

theorem States.isSealed (h : P.States s s') : s.cursor.Sealed :=
  P.isSealed h.readings.cursors

theorem States.move (h : P.States s s') {c c' : Cursor} (hc : P.Cursors c c') :
    P.States (s.move c) (s'.move c') :=
  ⟨h.readings.move hc, h.types, h.output⟩

end Pairing

/-! ## Single steps -/

namespace Gen

section

variable {P : Pairing} {s s' : State} {kind : TokenKind} {cause cause' : Fault}

theorem paired_lift {α β : Type} {A : α → β → Prop} {m : Read α} {m' : Read β}
    (h : P.States s s') (hm : P.Read A (m s.toReading) (m' s'.toReading)) :
    P.Gen A (lift m s) (lift m' s') := by
  unfold lift
  cases hr : m s.toReading with
  | ok a r =>
      rw [hr] at hm
      obtain ⟨b, r', hr', ha, hrr⟩ := hm.of_ok
      rw [hr']
      exact ⟨ha, hrr, h.types, h.output⟩
  | error e r =>
      rw [hr] at hm
      obtain ⟨e', r', hr', he⟩ := hm.of_error
      rw [hr']
      exact he

theorem paired_write {f f' : Output → Output} (h : P.States s s')
    (hf : P.Outputs (f s.output) (f' s'.output)) : P.Gen Eq (write f s) (write f' s') :=
  ⟨rfl, h.readings, h.types, hf⟩

theorem paired_emit (h : P.States s s') {code code' : String} (hc : P.Same code code') :
    P.Gen Eq (emit code s) (emit code' s') :=
  paired_write h (h.output.emit hc)

theorem paired_declare (h : P.States s s') {name name' : String} {kind kind' : ValueKind}
    (hn : P.Same name name') (hk : P.Same kind kind') :
    P.Gen Eq (declare name kind s) (declare name' kind' s') := by
  refine ⟨rfl, h.readings, fun hx => ?_, h.output⟩
  show s.types.declare name kind = s'.types.declare name' kind'
  rw [h.types hx, hn hx, hk hx]

theorem paired_advance (h : P.States s s') (hk : s.cursor.here.kind.endsLine = false) :
    P.Gen P.Words ((Read.advance : Gen Token) s) ((Read.advance : Gen Token) s') :=
  paired_lift h (Read.paired_advance h.readings hk)

theorem paired_expect (h : P.States s s') (hk : kind.endsLine = false)
    (hc : P.Causes cause cause') :
    P.Gen (fun t t' => P.Tokens t t' ∧ t.kind = kind) ((Read.expect kind cause : Gen Token) s)
      ((Read.expect kind cause' : Gen Token) s') :=
  paired_lift h (Read.paired_expect h.readings hk hc)

theorem paired_accept (h : P.States s s') (hk : kind.endsLine = false) :
    P.Gen Eq ((Read.accept kind : Gen Bool) s) ((Read.accept kind : Gen Bool) s') :=
  paired_lift h (Read.paired_accept h.readings hk)

theorem paired_expression (depth : Nat) (h : P.States s s') :
    P.Gen P.Same (expression depth s) (expression depth s') :=
  paired_lift h (Read.paired_expression h.types depth h.readings)

theorem paired_builtin (depth : Nat) (h : P.States s s') {word : Builtin}
    (hk : s.cursor.here.kind = .builtin word) :
    P.Gen P.Same (builtin depth s) (builtin depth s') :=
  paired_lift h (Read.paired_builtin (Read.paired_expression h.types depth) h.readings hk)

theorem paired_callArguments (depth : Nat) (h : P.States s s') :
    P.Gen P.Same (callArguments depth s) (callArguments depth s') :=
  paired_lift h (Read.paired_callArguments (Read.paired_expression h.types depth)
    (reads_expression s.types depth) h.readings)

/-! ## Statements without blocks -/

theorem paired_varDeclaration (depth : Nat) (h : P.States s s')
    (hk : s.cursor.here.kind.endsLine = false) :
    P.Gen Eq (varDeclaration (expression depth) s) (varDeclaration (expression depth) s') := by
  refine (paired_advance h hk).bind fun _ _ s₁ s₁' _ _ h₁ => ?_
  refine (paired_expect h₁ rfl (.same _)).bind fun name name' s₂ s₂' _ hn h₂ => ?_
  refine (paired_expect h₂ rfl (.same _)).bind fun _ _ s₃ s₃' _ _ h₃ => ?_
  refine (paired_expression depth h₃).bind fun f f' s₄ s₄' _ hf h₄ => ?_
  have hname := P.same_value hn.1 (by rw [hn.2]; rfl)
  refine (paired_emit h₄ (hname.map₂ hf fun name f =>
    variableType (variableKind f) ++ " " ++ name ++ " = " ++ f.code ++ ";")).bind
    fun _ _ s₅ s₅' _ _ h₅ => ?_
  exact paired_declare h₅ hname (hf.map variableKind)

theorem paired_printStatement (depth : Nat) (h : P.States s s')
    (hk : s.cursor.here.kind.endsLine = false) :
    P.Gen Eq (printStatement (expression depth) s) (printStatement (expression depth) s') := by
  refine (paired_advance h hk).bind fun _ _ s₁ s₁' _ _ h₁ => ?_
  refine (paired_expression depth h₁).bind fun f f' s₂ s₂' _ hf h₂ => ?_
  exact paired_emit h₂ (hf.map fun f => (printRoutine f.kind).call [f.code] ++ ";")

theorem paired_returnStatement (depth : Nat) (h : P.States s s')
    (hk : s.cursor.here.kind.endsLine = false) :
    P.Gen Eq (returnStatement (expression depth) s) (returnStatement (expression depth) s') := by
  refine (paired_advance h hk).bind fun _ _ s₁ s₁' _ _ h₁ => ?_
  refine (paired_expression depth h₁).bind fun f f' s₂ s₂' _ hf h₂ => ?_
  -- one line is written with or without a value
  rw [← apply_ite emit, ← apply_ite emit]
  exact paired_emit h₂
    (hf.map fun f => if f.code = "" then "return;" else "return " ++ f.code ++ ";")

theorem paired_writeFileStatement (depth : Nat) (h : P.States s s')
    (hk : s.cursor.here.kind.endsLine = false) :
    P.Gen Eq (writeFileStatement (expression depth) s)
      (writeFileStatement (expression depth) s') := by
  refine (paired_advance h hk).bind fun t t' s₁ s₁' _ ht h₁ => ?_
  refine (paired_expect h₁ rfl (.missingArguments ht)).bind fun _ _ s₂ s₂' _ _ h₂ => ?_
  refine (paired_expression depth h₂).bind fun f f' s₃ s₃' _ hf h₃ => ?_
  refine (paired_expect h₃ rfl (.same _)).bind fun _ _ s₄ s₄' _ _ h₄ => ?_
  refine (paired_expression depth h₄).bind fun g g' s₅ s₅' _ hg h₅ => ?_
  refine (paired_expect h₅ rfl (.unclosedWord ht)).bind fun _ _ s₆ s₆' _ _ h₆ => ?_
  exact paired_emit h₆ (hf.map₂ hg fun f g => Support.writeFile.call [f.code, g.code] ++ ";")

theorem paired_readFileStatement (depth : Nat) (h : P.States s s') {word : Builtin}
    (hk : s.cursor.here.kind = .builtin word) :
    P.Gen Eq (readFileStatement (builtin depth) s) (readFileStatement (builtin depth) s') := by
  refine (paired_builtin depth h hk).bind fun f f' s₁ s₁' _ hf h₁ => ?_
  exact paired_emit h₁ (hf.map fun f => f.code ++ ";")

theorem paired_nameStatement (depth : Nat) (h : P.States s s')
    (hk : s.cursor.here.kind = .identifier) :
    P.Gen Eq (nameStatement (expression depth) (callArguments depth) s)
      (nameStatement (expression depth) (callArguments depth) s') := by
  refine (paired_advance h (by rw [hk]; rfl)).bind fun t t' s₁ s₁' hadv ht h₁ => ?_
  cases hadv
  have hname := P.same_value ht.tokens (by rw [hk]; rfl)
  refine (paired_accept h₁ rfl).bind fun b b' s₂ s₂' _ hb h₂ => ?_
  subst hb
  cases b with
  | true =>
      refine (paired_expression depth h₂).bind fun f f' s₃ s₃' _ hf h₃ => ?_
      exact paired_emit h₃ (hname.map₂ hf fun name f => name ++ " = " ++ f.code ++ ";")
  | false =>
      refine (paired_accept h₂ rfl).bind fun b b' s₃ s₃' _ hb h₃ => ?_
      subst hb
      cases b with
      | true =>
          refine (paired_callArguments depth h₃).bind fun args args' s₄ s₄' _ hargs h₄ => ?_
          exact paired_emit h₄ (hname.map₂ hargs fun name args => name ++ "(" ++ args ++ ");")
      | false => exact paired_lift h₃ (Read.paired_remark h₃.readings _ ht)

/-! ## What stands before a block -/

theorem paired_condition (depth : Nat) (h : P.States s s') {word word' : Token}
    (hw : P.Words word word') :
    P.Gen P.Same (condition (expression depth) word s) (condition (expression depth) word' s') := by
  refine (paired_expect h rfl (.missingArguments hw)).bind fun _ _ s₁ s₁' _ _ h₁ => ?_
  refine (paired_expression depth h₁).bind fun f f' s₂ s₂' _ hf h₂ => ?_
  refine (paired_expect h₂ rfl (.same _)).bind fun _ _ s₃ s₃' _ _ h₃ => ?_
  exact ⟨hf.map Fragment.code, h₃⟩

/-- The head of a function up to its block: the word, the name and the
parameters are read, and a body is opened. -/
def functionHead : Gen Nat := do
  let word ← Read.advance
  let name ← Read.expect .identifier (.missingFunction word.value)
  let _ ← Read.expect .lparen .missingParameters
  let params ← Read.parameters true ((← Read.remaining) + 1)
  let _ ← Read.expect .rparen .unclosedParameters
  write fun o => { o with names := o.names.push name.value }
  Read.note (.function name.value params)
  let outer := (← get).output.indent
  write (·.openFunction (functionHeader name.value params))
  return outer

theorem functionDeclaration_eq (inner : Gen Unit) : functionDeclaration inner = (do
    let outer ← functionHead
    block inner "function body"
    write (·.closeFunction outer)) := by
  simp only [functionDeclaration, functionHead, bind_assoc, pure_bind]

theorem paired_functionHead (h : P.States s s') (hk : s.cursor.here.kind.endsLine = false) :
    P.Gen P.Same (functionHead s) (functionHead s') := by
  refine (paired_advance h hk).bind fun word word' s₁ s₁' _ hword h₁ => ?_
  refine (paired_expect h₁ rfl (.missingFunction hword)).bind fun name name' s₂ s₂' _ hn h₂ => ?_
  have hname := P.same_value hn.1 (by rw [hn.2]; rfl)
  refine (paired_expect h₂ rfl (.same _)).bind fun _ _ s₃ s₃' _ _ h₃ => ?_
  rw [bind_ok remaining_eq, bind_ok remaining_eq, P.ahead h₃.readings.cursors, Nat.add_right_comm]
  refine (paired_lift h₃ (Read.paired_parameters h₃.readings (Nat.lt_succ_self _) true)).bind
    fun params params' s₄ s₄' _ hparams h₄ => ?_
  refine (paired_expect h₄ rfl (.same _)).bind fun _ _ s₅ s₅' _ _ h₅ => ?_
  have hnames : P.Outputs { s₅.output with names := s₅.output.names.push name.value }
      { s₅'.output with names := s₅'.output.names.push name'.value } := by
    refine ⟨h₅.output.main, h₅.output.bodies, h₅.output.functions, ?_, ?_⟩
    · simp [h₅.output.names]
    · exact h₅.output.same.map₂ hname fun o name => { o with names := o.names.push name }
  refine (paired_write h₅ hnames).bind fun _ _ s₆ s₆' _ _ h₆ => ?_
  refine (paired_lift h₆ (Read.paired_note h₆.readings _ _)).bind fun _ _ s₇ s₇' _ _ h₇ => ?_
  rw [bind_ok (show (get : Gen State) s₇ = .ok s₇ s₇ from rfl),
    bind_ok (show (get : Gen State) s₇' = .ok s₇' s₇' from rfl)]
  refine (paired_write h₇ (h₇.output.openFunction (hname.map₂ hparams functionHeader))).bind
    fun _ _ s₈ s₈' _ _ h₈ => ?_
  exact ⟨h₇.output.same.map Output.indent, h₈⟩

end

end Gen

/-! ## Every round reads a token -/

section

variable {depth : Nat} {s s' : State}

/-- A generator of statements that is not at the end of a block reads on. -/
theorem Generates.progress {m : Gen Unit} (hg : Generates depth m)
    (hq : s.debug = false) (hs : s.cursor.Sealed)
    (hk : s.cursor.here.kind ∉ [TokenKind.rbrace, .eof]) (h : m s = .ok () s') :
    s'.cursor.ahead.length < s.cursor.ahead.length := by
  induction hlen : s.cursor.ahead.length using Nat.strongRecOn generalizing s with
  | ind len ih =>
      have hm := hs.moves_next (fun he => hk (by rw [he]; decide))
      have hahead := hm.length_ahead
      rw [List.length_singleton] at hahead
      by_cases hl : s.cursor.here.kind = .newline
      · rw [hg.line (hg.pos h) hl] at h
        by_cases hstop : s.cursor.next.here.kind ∈ [TokenKind.rbrace, .eof]
        · rw [hg.stop (s := s.move s.cursor.next) (hg.pos h) (by simpa using hstop)] at h
          cases h
          rw [State.cursor_move]
          omega
        · have := ih s.cursor.next.ahead.length (by omega) (s := s.move s.cursor.next) hq
            (hm.isSealed hs) hstop h rfl
          omega
      · have hb : s.cursor.here.kind.betweenStatements = false := by
          cases hkind : s.cursor.here.kind <;> simp_all [TokenKind.betweenStatements]
        obtain ⟨t, c, hat, rfl⟩ := hg.sound hq hs hb h
        have hpos := List.length_pos_iff.2 t.yield_ne_nil
        have := hat.moves.length_ahead
        rw [State.cursor_after]
        omega

theorem Gen.topLevel_progress (hq : s.debug = false) (hs : s.cursor.Sealed)
    (hk : s.cursor.here.kind ∉ [TokenKind.eof]) (h : topLevel depth s = .ok () s') :
    s'.cursor.ahead.length < s.cursor.ahead.length := by
  have hne : s.cursor.here.kind ≠ .eof := fun he => hk (by rw [he]; decide)
  by_cases hb : s.cursor.here.kind = .rbrace
  · obtain ⟨m, hmark⟩ := exists_mark hb
    have hm := hs.moves_next hne
    rw [hmark] at hm
    have := hm.length_ahead
    rw [topLevel_stray hm] at h
    cases h
    rw [State.cursor_after, this]
    exact Nat.lt_add_of_pos_left Nat.one_pos
  · rw [topLevel_of_ne hb] at h
    exact (generates_statement depth).progress hq hs (by simp [hb, hne]) h

end

namespace Gen

section

variable {P : Pairing} {s s' : State} {inner : Gen Unit} {depth : Nat}

/-- A statement that starts with a word for a block is not compared here: its
block need not end alike. All others are generated alike under every pairing. -/
theorem paired_simple (h : P.States s s') (hb : s.cursor.here.kind.betweenStatements = false)
    (hk : s.cursor.here.kind.opensBlock = false) :
    P.Gen Eq (statementOver depth inner s) (statementOver depth inner s') := by
  have hb' : s'.cursor.here.kind.betweenStatements = false := by rw [h.kind]; exact hb
  have hline : s.cursor.here.kind.endsLine = false := by
    cases hkind : s.cursor.here.kind <;> first | rfl | (rw [hkind] at hb; cases hb)
  cases hh : statementFor? depth inner s.cursor.here.kind with
  | none =>
      rw [statementOver_eq hb, statementOver_eq hb', h.kind, hh]
      exact paired_lift h (Read.paired_skip h.readings hline)
  | some handler =>
      rw [statementOver_of_handler h.readings.quiet hb hh,
        statementOver_of_handler h.readings.quiet' hb' (by rw [h.kind]; exact hh)]
      cases hkind : s.cursor.here.kind with
      | keyword word =>
          rw [hkind] at hh hk
          cases word with
          | varK => cases hh; exact paired_varDeclaration depth h hline
          | printK => cases hh; exact paired_printStatement depth h hline
          | returnK => cases hh; exact paired_returnStatement depth h hline
          | writeFileK => cases hh; exact paired_writeFileStatement depth h hline
          | elseK => cases hh
          | whileK | ifK | functionK => cases hk
      | builtin word =>
          rw [hkind] at hh
          cases word with
          | readFile => cases hh; exact paired_readFileStatement depth h hkind
          | _ => cases hh
      | identifier =>
          rw [hkind] at hh
          cases hh
          exact paired_nameStatement depth h hkind
      | _ => rw [hkind] at hh; cases hh

/-- The search for a statement may as well begin behind the line breaks. -/
theorem statementOver_skip (hne : s.cursor.skipNewlines.here.kind ≠ .newline) :
    statementOver depth inner s = statementOver depth inner (s.move s.cursor.skipNewlines) := by
  refine (bind_ok skipLines_eq).trans (Eq.trans ?_ (bind_ok skipLines_eq).symm)
  rw [State.cursor_move, Cursor.skipNewlines_of_ne hne]
  rfl

end

end Gen

end StageZero
