import StageZero.Compilation

/-!
# A trace is only a trace

The generator keeps a trace of its steps when it is asked to. The trace is
written and never read: every step does the same to the rest of the state
whether a trace is kept or not, and fails for the same reason. So whatever is
shown about a generator that keeps none holds of one that does, and the other
files of this theory look at the silent one alone.

The statement is a commutation. `quiet` takes the trace out of a state and
switches it off; a step is silent when it does not matter whether `quiet` comes
before or after it. Silence goes through `bind`, so each step of the generator
inherits it from the steps it is made of.
-/

namespace StageZero

/-- The answer of a step with its state mapped. -/
def mapState {ε σ α : Type} (f : σ → σ) : EStateM.Result ε σ α → EStateM.Result ε σ α
  | .ok a s => .ok a (f s)
  | .error e s => .error e (f s)

/-- A step that commutes with a map of its states. -/
def Commutes {ε σ α : Type} (f : σ → σ) (m : EStateM ε σ α) : Prop :=
  ∀ s, m (f s) = mapState f (m s)

section

variable {ε σ α β : Type} {f : σ → σ}

theorem Commutes.pure (a : α) : Commutes f (Pure.pure a : EStateM ε σ α) :=
  fun _ => rfl

theorem Commutes.throw (e : ε) : Commutes f (MonadExcept.throw e : EStateM ε σ α) :=
  fun _ => rfl

theorem Commutes.bind {m : EStateM ε σ α} {k : α → EStateM ε σ β} (hm : Commutes f m)
    (hk : ∀ a, Commutes f (k a)) : Commutes f (m >>= k) := by
  intro s
  show EStateM.bind m k (f s) = mapState f (EStateM.bind m k s)
  unfold EStateM.bind
  rw [hm s]
  cases m s with
  | ok a s' => exact hk a s'
  | error e s' => rfl

/-- A step that looks at the whole state: the part it uses must survive the
map. -/
theorem Commutes.get_bind {k : σ → EStateM ε σ β} (hk : ∀ s, Commutes f (k s))
    (hf : ∀ s, k (f s) = k s) : Commutes f (MonadState.get >>= k) := by
  intro s
  show k (f s) (f s) = mapState f (k s s)
  rw [hf]
  exact hk s s

theorem Commutes.modify {g : σ → σ} (hg : ∀ s, g (f s) = f (g s)) :
    Commutes f (modify g : EStateM ε σ PUnit) := by
  intro s
  show EStateM.Result.ok PUnit.unit (g (f s)) = .ok PUnit.unit (f (g s))
  rw [hg]

theorem Commutes.ite {c : Prop} [Decidable c] {m n : EStateM ε σ α} (hm : Commutes f m)
    (hn : Commutes f n) : Commutes f (if c then m else n) := by
  split
  · exact hm
  · exact hn

end

/-- A reading without its trace, and with none to be kept. -/
def Reading.quiet (r : Reading) : Reading :=
  { r with debug := false, trace := #[] }

/-- A state without its trace, and with none to be kept. -/
def State.quiet (s : State) : State :=
  { s with toReading := s.toReading.quiet }

/-! ## Reading -/

namespace Read

/-- A reading step to which the trace makes no difference. -/
abbrev Silent {α : Type} (m : Read α) : Prop :=
  Commutes Reading.quiet m

theorem silent_note (e : Event) : Silent (note e) := by
  refine Commutes.modify fun r => ?_
  cases r with
  | mk cursor report debug trace => cases debug <;> rfl

theorem silent_current : Silent current := fun _ => rfl

theorem silent_remaining : Silent remaining := fun _ => rfl

theorem silent_advance : Silent advance := fun _ => rfl

theorem silent_check (kind : TokenKind) : Silent (check kind) := fun _ => rfl

theorem silent_accept (kind : TokenKind) : Silent (accept kind) := by
  refine (silent_check kind).bind fun b => ?_
  cases b with
  | true => exact silent_advance.bind fun _ => .pure true
  | false => exact .pure false

theorem silent_remark (r : Remark) (tok : Token) : Silent (remark r tok) := fun _ => rfl

theorem silent_skipLines : Silent skipLines := fun _ => rfl

theorem silent_fail {α : Type} (cause : Fault) : Silent (fail cause : Read α) := by
  refine silent_current.bind fun tok => ?_
  refine Commutes.get_bind (fun r => ?_) fun _ => rfl
  exact Commutes.bind (.modify fun _ => rfl) fun _ => (silent_note _).bind fun _ => .throw _

theorem silent_expect (kind : TokenKind) (cause : Fault) : Silent (expect kind cause) := by
  refine silent_current.bind fun tok => (silent_note _).bind fun _ => ?_
  refine (silent_check kind).bind fun b => ?_
  cases b with
  | true => exact silent_advance
  | false => exact silent_fail cause

theorem silent_elseFollows : Silent elseFollows := by
  refine Commutes.get_bind (fun r => ?_) fun _ => rfl
  exact Commutes.ite (Commutes.bind (.modify fun _ => rfl) fun _ => .pure true) (.pure false)

section

variable {types : TypeTable} {inner : Read Fragment}

theorem silent_builtinArguments (hi : Silent inner) (first : Bool) (n : Nat) :
    Silent (builtinArguments inner first n) := by
  induction n generalizing first with
  | zero => exact .pure []
  | succ n ih =>
      cases first with
      | true => exact hi.bind fun _ => (ih false).bind fun _ => .pure _
      | false =>
          exact (silent_expect _ _).bind fun _ => hi.bind fun _ => (ih false).bind fun _ => .pure _

theorem silent_builtin (hi : Silent inner) : Silent (builtin inner) := by
  refine silent_advance.bind fun tok => ?_
  split
  · refine (silent_expect _ _).bind fun _ => ?_
    refine (silent_builtinArguments hi _ _).bind fun _ => ?_
    exact (silent_expect _ _).bind fun _ => .pure _
  · exact .throw _

theorem silent_argumentList (hi : Silent inner) (first : Bool) (n : Nat) :
    Silent (argumentList inner first n) := by
  induction n generalizing first with
  | zero => exact .pure []
  | succ n ih =>
      refine silent_current.bind fun tok => Commutes.ite (.pure []) ?_
      cases first with
      | true => exact hi.bind fun _ => (ih false).bind fun _ => .pure _
      | false =>
          exact (silent_expect _ _).bind fun _ => hi.bind fun _ => (ih false).bind fun _ => .pure _

theorem silent_callArguments (hi : Silent inner) : Silent (callArguments inner) := by
  refine silent_remaining.bind fun n => (silent_argumentList hi _ _).bind fun _ => ?_
  exact (silent_expect _ _).bind fun _ => .pure _

theorem silent_reference (hi : Silent inner) : Silent (reference types inner) := by
  refine silent_advance.bind fun tok => (silent_accept _).bind fun b => ?_
  exact Commutes.ite ((silent_callArguments hi).bind fun _ => .pure _) (.pure _)

theorem silent_group (hi : Silent inner) : Silent (group inner) :=
  silent_advance.bind fun _ => hi.bind fun _ => (silent_expect _ _).bind fun _ => .pure _

theorem silent_part? (hi : Silent inner) : Silent (part? types inner) := by
  refine silent_current.bind fun tok => ?_
  split
  · exact silent_advance.bind fun _ => .pure _
  · exact silent_advance.bind fun _ => .pure _
  · exact (silent_builtin hi).bind fun _ => .pure _
  · exact (silent_reference hi).bind fun _ => .pure _
  · exact silent_advance.bind fun _ => .pure _
  · exact (silent_group hi).bind fun _ => .pure _
  · exact .pure none

theorem silent_parts (hi : Silent inner) (n : Nat) : Silent (parts types inner n) := by
  induction n with
  | zero => exact .pure []
  | succ n ih =>
      refine (silent_part? hi).bind fun p => ?_
      cases p with
      | none => exact .pure []
      | some p => exact ih.bind fun _ => .pure _

theorem silent_expressionOver (hi : Silent inner) : Silent (expressionOver types inner) := by
  refine silent_remaining.bind fun n => (silent_parts hi _).bind fun ps => ?_
  exact (silent_note _).bind fun _ => .pure _

end

theorem silent_expression (types : TypeTable) (depth : Nat) :
    Silent (Read.expression types depth) := by
  induction depth with
  | zero => exact silent_fail _
  | succ d ih => exact silent_expressionOver ih

theorem silent_parameters (first : Bool) (n : Nat) : Silent (parameters first n) := by
  induction n generalizing first with
  | zero => exact .pure []
  | succ n ih =>
      refine silent_current.bind fun tok => Commutes.ite (.pure []) ?_
      cases first with
      | true => exact (silent_expect _ _).bind fun _ => (ih false).bind fun _ => .pure _
      | false =>
          refine (silent_expect _ _).bind fun _ => (silent_expect _ _).bind fun _ => ?_
          exact (ih false).bind fun _ => .pure _

theorem silent_skip : Silent skip := by
  refine silent_advance.bind fun tok => ?_
  exact Commutes.ite ((silent_remark _ _).bind fun _ => silent_note _) (silent_note _)

end Read

/-! ## Generating -/

namespace Gen

/-- A step of the generator to which the trace makes no difference. -/
abbrev Silent {α : Type} (m : Gen α) : Prop :=
  Commutes State.quiet m

theorem silent_lift {α : Type} {m : Read α} (hm : Read.Silent m) : Silent (lift m) := by
  intro s
  have h : m s.quiet.toReading = mapState Reading.quiet (m s.toReading) := hm s.toReading
  unfold lift
  rw [h]
  cases m s.toReading <;> rfl

theorem silent_write (f : Output → Output) : Silent (write f) := fun _ => rfl

theorem silent_emit (code : String) : Silent (emit code) := fun _ => rfl

theorem silent_declare (name : String) (kind : ValueKind) : Silent (declare name kind) :=
  fun _ => rfl

theorem silent_expression (depth : Nat) : Silent (expression depth) :=
  Commutes.get_bind (fun s => silent_lift (Read.silent_expression s.types depth)) fun _ => rfl

theorem silent_builtin (depth : Nat) : Silent (builtin depth) :=
  Commutes.get_bind
    (fun s => silent_lift (Read.silent_builtin (Read.silent_expression s.types depth)))
    fun _ => rfl

theorem silent_callArguments (depth : Nat) : Silent (callArguments depth) :=
  Commutes.get_bind
    (fun s => silent_lift (Read.silent_callArguments (Read.silent_expression s.types depth)))
    fun _ => rfl

theorem silent_repeatUntil (stops : List TokenKind) {step : Gen Unit} (hs : Silent step)
    (n : Nat) : Silent (repeatUntil stops step n) := by
  induction n with
  | zero => exact .pure ()
  | succ n ih =>
      refine (silent_lift Read.silent_current).bind fun tok => ?_
      exact Commutes.ite (.pure ()) (hs.bind fun _ => ih)

theorem silent_advance : Silent (Read.advance : Gen Token) :=
  silent_lift Read.silent_advance

theorem silent_expect (kind : TokenKind) (cause : Fault) :
    Silent (Read.expect kind cause : Gen Token) :=
  silent_lift (Read.silent_expect kind cause)

section

variable {expr : Gen Fragment} {inner : Gen Unit}

theorem silent_varDeclaration (he : Silent expr) : Silent (varDeclaration expr) := by
  refine silent_advance.bind fun _ => (silent_expect _ _).bind fun _ => ?_
  refine (silent_expect _ _).bind fun _ => he.bind fun _ => ?_
  exact (silent_emit _).bind fun _ => silent_declare _ _

theorem silent_printStatement (he : Silent expr) : Silent (printStatement expr) :=
  silent_advance.bind fun _ => he.bind fun _ => silent_emit _

theorem silent_block (hi : Silent inner) (place : String) : Silent (block inner place) := by
  refine (silent_expect _ _).bind fun _ => (silent_write _).bind fun _ => ?_
  refine (silent_lift Read.silent_remaining).bind fun n => ?_
  refine (silent_repeatUntil _ hi _).bind fun _ => (silent_write _).bind fun _ => ?_
  exact (silent_expect _ _).bind fun _ => .pure _

theorem silent_guarded (he : Silent expr) (hi : Silent inner) (head place : String) :
    Silent (guarded expr inner head place) := by
  refine silent_advance.bind fun word => ?_
  have hc : Silent (condition expr word) :=
    (silent_expect _ _).bind fun _ => he.bind fun _ => (silent_expect _ _).bind fun _ => .pure _
  refine hc.bind fun _ => (silent_emit _).bind fun _ => ?_
  exact (silent_block hi place).bind fun _ => silent_emit _

theorem silent_alternatives (he : Silent expr) (hi : Silent inner) (n : Nat) :
    Silent (alternatives expr inner n) := by
  induction n with
  | zero => exact .pure ()
  | succ n ih =>
      refine (silent_lift Read.silent_elseFollows).bind fun b => Commutes.ite ?_ (.pure _)
      refine silent_advance.bind fun _ => (silent_lift (Read.silent_check _)).bind fun b => ?_
      refine Commutes.ite ((silent_guarded he hi _ _).bind fun _ => ih) ?_
      exact (silent_emit _).bind fun _ => (silent_block hi _).bind fun _ => silent_emit _

theorem silent_ifStatement (he : Silent expr) (hi : Silent inner) :
    Silent (ifStatement expr inner) := by
  refine (silent_guarded he hi _ _).bind fun _ => ?_
  exact (silent_lift Read.silent_remaining).bind fun _ => silent_alternatives he hi _

theorem silent_functionDeclaration (hi : Silent inner) : Silent (functionDeclaration inner) := by
  refine silent_advance.bind fun _ => (silent_expect _ _).bind fun _ => ?_
  refine (silent_expect _ _).bind fun _ => (silent_lift Read.silent_remaining).bind fun _ => ?_
  refine (silent_lift (Read.silent_parameters _ _)).bind fun _ => ?_
  refine (silent_expect _ _).bind fun _ => (silent_write _).bind fun _ => ?_
  refine (silent_lift (Read.silent_note _)).bind fun _ => ?_
  refine Commutes.get_bind (fun s => ?_) fun _ => rfl
  exact (silent_write _).bind fun _ => (silent_block hi _).bind fun _ => silent_write _

theorem silent_returnStatement (he : Silent expr) : Silent (returnStatement expr) :=
  silent_advance.bind fun _ => he.bind fun _ => Commutes.ite (silent_emit _) (silent_emit _)

theorem silent_writeFileStatement (he : Silent expr) : Silent (writeFileStatement expr) := by
  refine silent_advance.bind fun _ => (silent_expect _ _).bind fun _ => he.bind fun _ => ?_
  refine (silent_expect _ _).bind fun _ => he.bind fun _ => ?_
  exact (silent_expect _ _).bind fun _ => silent_emit _

theorem silent_nameStatement {arguments : Gen String} (he : Silent expr)
    (ha : Silent arguments) : Silent (nameStatement expr arguments) := by
  refine silent_advance.bind fun _ => (silent_lift (Read.silent_accept _)).bind fun b => ?_
  refine Commutes.ite (he.bind fun _ => silent_emit _) ?_
  refine (silent_lift (Read.silent_accept _)).bind fun b => ?_
  exact Commutes.ite (ha.bind fun _ => silent_emit _) (silent_lift (Read.silent_remark _ _))

theorem silent_statementFor? {depth : Nat} {kind : TokenKind} {handler : Gen Unit}
    (hi : Silent inner) (h : statementFor? depth inner kind = some handler) : Silent handler := by
  have he := silent_expression depth
  unfold statementFor? at h
  split at h <;> cases h
  · exact silent_varDeclaration he
  · exact silent_printStatement he
  · exact silent_guarded he hi _ _
  · exact silent_ifStatement he hi
  · exact silent_functionDeclaration hi
  · exact silent_returnStatement he
  · exact silent_writeFileStatement he
  · exact (silent_builtin depth).bind fun _ => silent_emit _
  · exact silent_nameStatement he (silent_callArguments depth)

theorem silent_statementOver (hi : Silent inner) (depth : Nat) :
    Silent (statementOver depth inner) := by
  refine (silent_lift Read.silent_skipLines).bind fun _ => ?_
  refine (silent_lift Read.silent_current).bind fun tok => Commutes.ite (.pure ()) ?_
  split
  · next handler h =>
      exact (silent_lift (Read.silent_note _)).bind fun _ => silent_statementFor? hi h
  · exact silent_lift Read.silent_skip

end

theorem silent_statement (depth : Nat) : Silent (statement depth) := by
  induction depth with
  | zero => exact silent_lift (Read.silent_fail _)
  | succ d ih => exact silent_statementOver ih _

theorem silent_topLevel (depth : Nat) : Silent (topLevel depth) := by
  refine (silent_lift (Read.silent_check _)).bind fun b => Commutes.ite ?_ (silent_statement depth)
  exact silent_advance.bind fun _ => silent_lift (Read.silent_remark _ _)

/-- Keeping a trace changes nothing else about a run. -/
theorem silent_run (depth : Nat) : Silent (run depth) :=
  (silent_lift Read.silent_remaining).bind fun _ =>
    silent_repeatUntil _ (silent_topLevel depth) _

end Gen

end StageZero
