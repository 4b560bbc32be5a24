import StageZero.Proofs.Growth

/-!
# From sources to runs

A compilation is a run over the tokens of a source. What it gives is decided by
the run that keeps no trace, so all that is shown about such runs is carried over
to compilations here, once for the answers and once for the faults. The tokens of
a source end with the end of input; a cursor over them sees them and nothing
else.
-/

namespace StageZero

theorem Cursor.rest_ofTokens_of_eof {e : Token} (he : e.kind = .eof) (ts : List Token) :
    (ofTokens (ts ++ [e])).rest = ts ++ [e] := by
  have hterminate : ∀ (t : Token) (us : List Token), terminate t (us ++ [e]) = us ++ [e] := by
    intro t us
    induction us generalizing t with
    | nil => simp [terminate, he]
    | cons u us ih => rw [List.cons_append, terminate, ih]
  cases ts with
  | nil => simp [ofTokens, rest, terminate, he]
  | cons t ts => rw [List.cons_append, ofTokens, rest, hterminate]

theorem rest_tokenize (source : String) :
    (Cursor.ofTokens (tokenize source)).rest = tokenize source := by
  obtain ⟨e, he, heq⟩ := tokenize_eq source
  rw [heq]
  exact Cursor.rest_ofTokens_of_eof he _

/-- The generator before the tokens of a source. -/
def State.ofSource (source : String) : State :=
  .ofTokens (tokenize source) (.ofSource source) false

/-- A run that keeps a trace is the run that keeps none, but for the trace. -/
theorem run_ofSource (source : String) (debug : Bool) :
    Gen.run nestingLimit (.ofSource source) = mapState State.quiet
      (Gen.run nestingLimit (.ofTokens (tokenize source) (.ofSource source) debug)) :=
  Gen.silent_run nestingLimit (.ofTokens (tokenize source) (.ofSource source) debug)

section

variable {source : String} {s : State} {e : Failure}

theorem compile_of_ok (h : Gen.run nestingLimit (.ofSource source) = .ok () s) (debug : Bool) :
    (compile debug source).result = .ok (.ofState (tokenize source) s) := by
  rw [run_ofSource source debug] at h
  cases hrun : Gen.run nestingLimit (.ofTokens (tokenize source) (.ofSource source) debug) with
  | error e s' => rw [hrun] at h; cases h
  | ok _ s' =>
      rw [hrun] at h
      cases h
      simp only [compile, hrun]
      rfl

theorem compile_of_error (h : Gen.run nestingLimit (.ofSource source) = .error e s)
    (debug : Bool) : (compile debug source).result = .error e := by
  rw [run_ofSource source debug] at h
  cases hrun : Gen.run nestingLimit (.ofTokens (tokenize source) (.ofSource source) debug) with
  | ok a s' => rw [hrun] at h; cases h
  | error e' s' =>
      rw [hrun] at h
      cases h
      simp only [compile, hrun]

end

/-- The result of a compilation does not depend on its trace. -/
theorem compile_result_eq (source : String) (debug debug' : Bool) :
    (compile debug source).result = (compile debug' source).result := by
  cases h : Gen.run nestingLimit (.ofSource source) with
  | ok _ s => rw [compile_of_ok h, compile_of_ok h]
  | error e s => rw [compile_of_error h, compile_of_error h]

/-- A run from a state that keeps no trace ends without an event in it. -/
theorem trace_mapState_quiet {α : Type} (r : EStateM.Result Failure State α) :
    (ending (mapState State.quiet r)).trace = #[] := by
  cases r <;> rfl

/-- Debugging only adds a trace. With and without it a source is compiled to the same
result, or to the same fault with the same diagnostic at the same token, because the
two runs go through the same states but for the trace, however deep they may go.
Without it nothing is printed: no step leaves an event. -/
theorem debug_only_traces (source : String) :
    (compile true source).result = (compile false source).result ∧
      (compile false source).trace = "" ∧
      ∀ depth,
        Gen.run depth (.ofTokens (tokenize source) (.ofSource source) false) =
          mapState State.quiet
            (Gen.run depth (.ofTokens (tokenize source) (.ofSource source) true)) ∧
        (ending (Gen.run depth (.ofTokens (tokenize source) (.ofSource source) false))).trace =
          #[] := by
  have hruns : ∀ depth, Gen.run depth (.ofTokens (tokenize source) (.ofSource source) false) =
      mapState State.quiet
        (Gen.run depth (.ofTokens (tokenize source) (.ofSource source) true)) := fun depth =>
    Gen.silent_run depth (.ofTokens (tokenize source) (.ofSource source) true)
  refine ⟨compile_result_eq source true false, ?_, fun depth => ⟨hruns depth, ?_⟩⟩
  · simp only [compile]
    split <;> rfl
  · rw [hruns]
    exact trace_mapState_quiet _

end StageZero
