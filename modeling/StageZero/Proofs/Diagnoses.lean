import StageZero.Proofs.Handling
import StageZero.Proofs.Sources

/-!
# How runs end

A run succeeds, or it stops with a fault; a missing token and a word out of place
are never met. The steps that could fail in another way are only called where they
do not: a builtin at its word, and no token is looked for outside the list.

What a run adds to its report is made from tokens of its list. A run that succeeds
has added warnings and no error, and a run that stops has added one error, the
diagnostic of its fault.
-/

namespace StageZero

open StageZero.Tree

/-- How a run over tokens ends that started with a report. -/
inductive Ends {α : Type} (tokens : List Token) (report : Report) :
    EStateM.Result Failure State α → Prop where
  | success {a : α} {s : State} (remarks : List (Remark × Token))
      (hr : ∀ m ∈ remarks, m.2 ∈ tokens) (h : s.report = report.remarkAll remarks) :
      Ends tokens report (.ok a s)
  | stop {s : State} (remarks : List (Remark × Token)) (hr : ∀ m ∈ remarks, m.2 ∈ tokens)
      (cause : Fault) {tok : Token} (ht : tok ∈ tokens)
      (h : s.report = (report.remarkAll remarks).addError
        (report.diagnose Fault.code cause.message tok)) :
      Ends tokens report (.error
        (.fault cause (report.diagnose Fault.code cause.message tok) tok) s)

/-- Of errors a run adds none, or the one it stops with. -/
theorem Ends.errors {α : Type} {tokens : List Token} {report : Report}
    {x : EStateM.Result Failure State α} (h : Ends tokens report x) :
    (∃ a s, x = .ok a s ∧ s.report.errors = report.errors) ∨
      ∃ cause d tok s, x = .error (.fault cause d tok) s ∧ tok ∈ tokens ∧
        d = report.diagnose Fault.code cause.message tok ∧
        s.report.errors = report.errors.push d := by
  cases h with
  | @success a s remarks hr h => exact .inl ⟨a, s, rfl, by rw [h]; rfl⟩
  | @stop s remarks hr cause tok ht h =>
      exact .inr ⟨cause, _, tok, s, rfl, ht, rfl, by rw [h]; rfl⟩

theorem Orderly.ends {α : Type} {k : Nat} {deep : Prop} {s : State}
    {x : EStateM.Result Failure State α} (h : Orderly State.toReading k deep s.toReading x) :
    Ends s.cursor.tokens s.report x := by
  cases h with
  | ok hr =>
      obtain ⟨remarks, hmem, hreport⟩ := hr.report
      exact .success remarks hmem hreport
  | @fault cause r' t hr hd hc he =>
      obtain ⟨remarks, hmem, hreport⟩ := hr.report
      have hhere : r'.cursor.here ∈ s.cursor.tokens := hr.tokens ▸ r'.cursor.here_mem_tokens
      rw [hreport] at he ⊢
      exact .stop remarks hmem cause hhere he

/-- However deep a run may go, it ends over the tokens of its list. -/
theorem Gen.run_ends (depth : Nat) (tokens : List Token) (report : Report) (debug : Bool) :
    Ends (Cursor.ofTokens tokens).tokens report
      (Gen.run depth (.ofTokens tokens report debug)) := by
  have hs : (State.ofTokens tokens report debug).cursor.Sealed := Cursor.sealed_ofTokens tokens
  exact (Gen.alike_run hs (.inl rfl)).orderly.ends

theorem tokens_tokenize (source : String) :
    (Cursor.ofTokens (tokenize source)).tokens = tokenize source := by
  have hpassed : (Cursor.ofTokens (tokenize source)).passed = [] := by
    cases tokenize source <;> rfl
  show (Cursor.ofTokens (tokenize source)).passed.reverse ++
    (Cursor.ofTokens (tokenize source)).rest = _
  rw [hpassed, rest_tokenize]
  rfl

theorem Gen.run_ends_ofSource (source : String) (debug : Bool) :
    Ends (tokenize source) (.ofSource source)
      (Gen.run nestingLimit (.ofTokens (tokenize source) (.ofSource source) debug)) := by
  have h := Gen.run_ends nestingLimit (tokenize source) (.ofSource source) debug
  rwa [tokens_tokenize] at h

/-- Nothing but a fault escapes. Over any tokens and with any report, a document is
given and no error was added, or there is a fault at a token of the list and its
diagnostic is the one error that was added; so it is for runs of every depth, and
for compilations. -/
theorem only_faults_escape :
    (∀ (tokens : List Token) (report : Report),
      (∃ document s, generate tokens report = (.ok document, s) ∧
        s.report.errors = report.errors) ∨
      ∃ cause d tok s, generate tokens report = (.error (.fault cause d tok), s) ∧
        tok ∈ (Cursor.ofTokens tokens).tokens ∧
        d = report.diagnose Fault.code cause.message tok ∧
        s.report.errors = report.errors.push d) ∧
    (∀ (depth : Nat) (tokens : List Token) (report : Report) (debug : Bool),
      (∃ s, Gen.run depth (.ofTokens tokens report debug) = .ok () s ∧
        s.report.errors = report.errors) ∨
      ∃ cause d tok s, Gen.run depth (.ofTokens tokens report debug) =
          .error (.fault cause d tok) s ∧
        tok ∈ (Cursor.ofTokens tokens).tokens ∧
        d = report.diagnose Fault.code cause.message tok ∧
        s.report.errors = report.errors.push d) ∧
    ∀ (debug : Bool) (source : String), ∃ s : State,
      (Gen.run nestingLimit (.ofTokens (tokenize source) (.ofSource source) debug) = .ok () s ∧
        s.report.errors = #[] ∧
        (compile debug source).result = .ok (.ofState (tokenize source) s)) ∨
      ∃ cause d tok,
        Gen.run nestingLimit (.ofTokens (tokenize source) (.ofSource source) debug) =
          .error (.fault cause d tok) s ∧
        tok ∈ tokenize source ∧
        d = (Report.ofSource source).diagnose Fault.code cause.message tok ∧
        s.report.errors = #[d] ∧
        (compile debug source).result = .error (.fault cause d tok) := by
  refine ⟨fun tokens report => ?_, fun depth tokens report debug => ?_, fun debug source => ?_⟩
  · unfold generate
    rcases (Gen.run_ends nestingLimit tokens report false).errors with
      ⟨_, s, hrun, he⟩ | ⟨cause, d, tok, s, hrun, ht, hd, he⟩
    · rw [hrun]
      exact .inl ⟨_, s, rfl, he⟩
    · rw [hrun]
      exact .inr ⟨cause, d, tok, s, rfl, ht, hd, he⟩
  · rcases (Gen.run_ends depth tokens report debug).errors with ⟨_, s, hrun, he⟩ | hstop
    · exact .inl ⟨s, hrun, he⟩
    · exact .inr hstop
  · rcases (Gen.run_ends_ofSource source debug).errors with
      ⟨_, s, hrun, he⟩ | ⟨cause, d, tok, s, hrun, ht, hd, he⟩
    · exact ⟨s, .inl ⟨hrun, he, by simp only [compile, hrun]⟩⟩
    · exact ⟨s, .inr ⟨cause, d, tok, hrun, ht, hd, he, by simp only [compile, hrun]⟩⟩

end StageZero
