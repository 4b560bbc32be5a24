import Mathlib.Data.List.Forall2
import StageZero.Proofs.Steps

/-!
# Two runs side by side

Several things to be said about the generator compare two of its runs: over a
source and a longer one, over a source and one that is spelled in other words.
What is common to all of them is here. A pairing says which tokens correspond,
and which places in the two token lists. As long as the two cursors stand at
corresponding places, the generator does the same in both runs: it goes on in
both, and then the cursors correspond again, or it stops in both, at
corresponding tokens.

Corresponding tokens have the same kind, and that is enough for the two runs to
take the same way, because no decision about the next token looks at a value.
What is written depends on values as well. A pairing that is exact promises
equal values where they are written, and then what is written is equal.

This file compares the readers. A line break or an end of input is never read by
them, so a pairing has to be kept only by a step inside a line; this is what lets
the comparison with a longer source go through. The counts of the loops differ
when there are more tokens ahead in one list than in the other, always by as
much, and each loop is compared with one that has so many more rounds.
-/

namespace StageZero

/-! ## Answers -/

section

variable {ε σ α β γ δ : Type} {R H : σ → σ → Prop} {E : ε → ε → Prop} {A : α → β → Prop}
  {B : γ → δ → Prop}

/-- Both steps have an answer, with related values and states, or both fail, with
related failures and in states that are related as those of halted runs are. -/
def Agree (R H : σ → σ → Prop) (E : ε → ε → Prop) (A : α → β → Prop) :
    EStateM.Result ε σ α → EStateM.Result ε σ β → Prop
  | .ok a s, .ok b s' => A a b ∧ R s s'
  | .error e s, .error e' s' => E e e' ∧ H s s'
  | _, _ => False

theorem Agree.of_ok {r : EStateM.Result ε σ β} {a : α} {s : σ} (h : Agree R H E A (.ok a s) r) :
    ∃ b s', r = .ok b s' ∧ A a b ∧ R s s' := by
  cases r with
  | ok b s' => exact ⟨b, s', rfl, h⟩
  | error e s' => exact h.elim

theorem Agree.of_error {r : EStateM.Result ε σ β} {e : ε} {s : σ}
    (h : Agree R H E A (.error e s : EStateM.Result ε σ α) r) :
    ∃ e' s', r = .error e' s' ∧ E e e' ∧ H s s' := by
  cases r with
  | ok b s' => exact h.elim
  | error e' s' => exact ⟨e', s', rfl, h⟩

theorem Agree.bind {m : EStateM ε σ α} {m' : EStateM ε σ β} {k : α → EStateM ε σ γ}
    {k' : β → EStateM ε σ δ} {s s' : σ} (h : Agree R H E A (m s) (m' s'))
    (hk : ∀ a b t t', m s = .ok a t → A a b → R t t' → Agree R H E B (k a t) (k' b t')) :
    Agree R H E B ((m >>= k) s) ((m' >>= k') s') := by
  cases hm : m s with
  | ok a t =>
      rw [hm] at h
      obtain ⟨b, t', hm', ha, ht⟩ := h.of_ok
      rw [bind_ok hm, bind_ok hm']
      exact hk a b t t' hm ha ht
  | error e t =>
      rw [hm] at h
      obtain ⟨e', t', hm', he⟩ := h.of_error
      rw [bind_error hm, bind_error hm']
      exact he

end

/-! ## Pairings -/

namespace TokenKind

/-- Kinds of tokens whose value is written. -/
def hasValue : TokenKind → Bool
  | .integer | .string | .identifier => true
  | _ => false

/-- Kinds at which a line is over. -/
def endsLine : TokenKind → Bool
  | .newline | .eof => true
  | _ => false

end TokenKind

/-- Which tokens of two lists correspond, and which places. -/
structure Pairing where
  /-- Whether values that are written are equal. -/
  exact : Prop
  /-- What the first run reports to when it starts. -/
  report : Report
  /-- What the second run reports to when it starts. -/
  report' : Report
  Tokens : Token → Token → Prop
  Cursors : Cursor → Cursor → Prop
  /-- How many more tokens the second list has ahead. -/
  gap : Nat
  kind : ∀ {t t' : Token}, Tokens t t' → t.kind = t'.kind
  value : ∀ {t t' : Token}, exact → Tokens t t' → t.kind.hasValue = true → t.value = t'.value
  here : ∀ {c c' : Cursor}, Cursors c c' → Tokens c.here c'.here
  next : ∀ {c c' : Cursor}, Cursors c c' → c.here.kind.endsLine = false → Cursors c.next c'.next
  isSealed : ∀ {c c' : Cursor}, Cursors c c' → c.Sealed
  isSealed' : ∀ {c c' : Cursor}, Cursors c c' → c'.Sealed
  ahead : ∀ {c c' : Cursor}, Cursors c c' → c'.ahead.length = c.ahead.length + gap

namespace Pairing

/-- Equal, if the pairing is exact. -/
def Same (P : Pairing) {α : Type} (a b : α) : Prop :=
  P.exact → a = b

/-- Corresponding tokens inside a line. Only these are named in a message or
remarked on. -/
structure Words (P : Pairing) (t t' : Token) : Prop where
  tokens : P.Tokens t t'
  inside : t.kind.endsLine = false

/-- The same remark on corresponding tokens. -/
def Remarks (P : Pairing) (m m' : Remark × Token) : Prop :=
  m.1 = m'.1 ∧ P.Words m.2 m'.2

/-- The same cause of a fault, up to the spelling of the word it names. -/
inductive Causes (P : Pairing) : Fault → Fault → Prop where
  | same (cause : Fault) : P.Causes cause cause
  | missingArguments {t t' : Token} (h : P.Words t t') :
      P.Causes (.missingArguments t.value) (.missingArguments t'.value)
  | unclosedWord {t t' : Token} (h : P.Words t t') :
      P.Causes (.unclosedWord t.value) (.unclosedWord t'.value)
  | missingFunction {t t' : Token} (h : P.Words t t') :
      P.Causes (.missingFunction t.value) (.missingFunction t'.value)

/-- The same fault at corresponding tokens, each reported over its own source. -/
inductive Failures (P : Pairing) : Failure → Failure → Prop where
  | fault {cause cause' : Fault} {t t' : Token} (hc : P.Causes cause cause')
      (ht : P.Tokens t t') :
      P.Failures (.fault cause (P.report.diagnose Fault.code cause.message t) t)
        (.fault cause' (P.report'.diagnose Fault.code cause'.message t') t')

/-- Two readings that have come to corresponding places and have said the same. -/
structure Readings (P : Pairing) (r r' : Reading) : Prop where
  cursors : P.Cursors r.cursor r'.cursor
  quiet : r.debug = false
  quiet' : r'.debug = false
  reports : ∃ ms ms', List.Forall₂ P.Remarks ms ms' ∧ r.report = P.report.remarkAll ms ∧
    r'.report = P.report'.remarkAll ms'

/-- Two readings that have halted at corresponding places and have remarked on the
same. -/
structure Halted (P : Pairing) (r r' : Reading) : Prop where
  cursors : P.Cursors r.cursor r'.cursor
  warnings : ∃ ms ms', List.Forall₂ P.Remarks ms ms' ∧
    r.report.warnings = (P.report.remarkAll ms).warnings ∧
      r'.report.warnings = (P.report'.remarkAll ms').warnings

/-- Two answers of readers agree. -/
abbrev Read (P : Pairing) {α β : Type} (A : α → β → Prop) :
    EStateM.Result Failure Reading α → EStateM.Result Failure Reading β → Prop :=
  Agree P.Readings P.Halted P.Failures A

/-- Two readers of expressions that do the same. -/
def Readers (P : Pairing) (m m' : StageZero.Read Fragment) : Prop :=
  ∀ {r r'}, P.Readings r r' → P.Read P.Same (m r) (m' r')

variable {P : Pairing}

theorem Same.map {α β : Type} {a b : α} (h : P.Same a b) (f : α → β) : P.Same (f a) (f b) :=
  fun hx => congrArg f (h hx)

theorem Same.map₂ {α β γ : Type} {a a' : α} {b b' : β} (h : P.Same a a') (h' : P.Same b b')
    (f : α → β → γ) : P.Same (f a b) (f a' b') :=
  fun hx => by rw [h hx, h' hx]

theorem Same.refl {α : Type} (a : α) : P.Same a a :=
  fun _ => rfl

theorem same_value {t t' : Token} (h : P.Tokens t t') (hk : t.kind.hasValue = true) :
    P.Same t.value t'.value :=
  fun hx => P.value hx h hk

theorem Readings.here {r r' : Reading} (h : P.Readings r r') :
    P.Tokens r.cursor.here r'.cursor.here :=
  P.here h.cursors

theorem Readings.kind {r r' : Reading} (h : P.Readings r r') :
    r'.cursor.here.kind = r.cursor.here.kind :=
  (P.kind h.here).symm

theorem Readings.move {r r' : Reading} {c c' : Cursor} (h : P.Readings r r')
    (hc : P.Cursors c c') : P.Readings (r.move c) (r'.move c') :=
  ⟨hc, h.quiet, h.quiet', h.reports⟩

theorem Readings.next {r r' : Reading} (h : P.Readings r r')
    (hk : r.cursor.here.kind.endsLine = false) :
    P.Readings (r.move r.cursor.next) (r'.move r'.cursor.next) :=
  h.move (P.next h.cursors hk)

theorem Readings.diagnose {r r' : Reading} (h : P.Readings r r') (code message : String)
    (t : Token) :
    r.report.diagnose code message t = P.report.diagnose code message t ∧
      r'.report.diagnose code message t = P.report'.diagnose code message t := by
  obtain ⟨ms, ms', -, hr, hr'⟩ := h.reports
  rw [hr, hr']
  exact ⟨rfl, rfl⟩

end Pairing

/-! ## Single tokens -/

namespace Read

variable {P : Pairing} {r r' : Reading} {kind : TokenKind} {cause cause' : Fault}

theorem current_eq : current r = .ok r.cursor.here r := rfl

theorem check_eq (kind : TokenKind) :
    check kind r = .ok (decide (r.cursor.here.kind = kind)) r := rfl

theorem remaining_eq : remaining r = .ok r.cursor.ahead.length r := rfl

theorem paired_advance (h : P.Readings r r') (hk : r.cursor.here.kind.endsLine = false) :
    P.Read P.Words (advance r) (advance r') :=
  ⟨⟨h.here, hk⟩, h.next hk⟩

theorem fail_quiet {α : Type} {d : Diagnostic} (hq : r.debug = false)
    (hd : r.report.diagnose Fault.code cause.message r.cursor.here = d) :
    (fail cause r : EStateM.Result Failure Reading α) =
      .error (.fault cause d r.cursor.here) { r with report := r.report.addError d } := by
  obtain ⟨cursor, report, debug, trace⟩ := r
  cases hq
  cases hd
  rfl

theorem paired_fail {α : Type} (h : P.Readings r r') (hc : P.Causes cause cause') :
    P.Read (fun _ _ : α => False) (fail cause r) (fail cause' r') := by
  obtain ⟨ms, ms', hms, hr, hr'⟩ := h.reports
  rw [fail_quiet h.quiet (h.diagnose _ _ _).1, fail_quiet h.quiet' (h.diagnose _ _ _).2, hr, hr']
  exact ⟨.fault hc h.here, h.cursors, ms, ms', hms, rfl, rfl⟩

theorem paired_expect (h : P.Readings r r') (hk : kind.endsLine = false)
    (hc : P.Causes cause cause') :
    P.Read (fun t t' => P.Tokens t t' ∧ t.kind = kind) (expect kind cause r)
      (expect kind cause' r') := by
  unfold expect
  rw [bind_ok current_eq, bind_ok current_eq, bind_ok (note_quiet h.quiet _),
    bind_ok (note_quiet h.quiet' _), bind_ok (check_eq kind), bind_ok (check_eq kind), h.kind]
  by_cases hhere : r.cursor.here.kind = kind
  · rw [decide_eq_true hhere]
    exact ⟨⟨h.here, hhere⟩, h.next (by rw [hhere]; exact hk)⟩
  · rw [decide_eq_false hhere]
    exact paired_fail (α := Token) h hc

theorem paired_accept (h : P.Readings r r') (hk : kind.endsLine = false) :
    P.Read Eq (accept kind r) (accept kind r') := by
  unfold accept
  rw [bind_ok (check_eq kind), bind_ok (check_eq kind), h.kind]
  by_cases hhere : r.cursor.here.kind = kind
  · rw [decide_eq_true hhere]
    exact ⟨rfl, h.next (by rw [hhere]; exact hk)⟩
  · rw [decide_eq_false hhere]
    exact ⟨rfl, h⟩

theorem paired_note (h : P.Readings r r') (e e' : Event) :
    P.Read Eq (note e r) (note e' r') := by
  rw [note_quiet h.quiet, note_quiet h.quiet']
  exact ⟨rfl, h⟩

theorem paired_remark (h : P.Readings r r') (m : Remark) {t t' : Token} (ht : P.Words t t') :
    P.Read Eq (remark m t r) (remark m t' r') := by
  obtain ⟨ms, ms', hms, hr, hr'⟩ := h.reports
  refine ⟨rfl, h.cursors, h.quiet, h.quiet', ms ++ [(m, t)], ms' ++ [(m, t')], ?_, ?_, ?_⟩
  · exact List.rel_append hms (.cons ⟨rfl, ht⟩ .nil)
  · rw [Report.remarkAll_append, ← hr, Report.remarkAll_singleton]
  · rw [Report.remarkAll_append, ← hr', Report.remarkAll_singleton]

/-! ## Expressions -/

section

variable {types types' : TypeTable} {depth : Nat} {inner inner' : Read Fragment}

theorem paired_builtinArguments (hi : P.Readers inner inner') (h : P.Readings r r')
    (first : Bool) (n : Nat) :
    P.Read P.Same (builtinArguments inner first n r) (builtinArguments inner' first n r') := by
  induction n generalizing first r r' with
  | zero => exact ⟨.refl _, h⟩
  | succ n ih =>
      have hrest : ∀ {r r'}, P.Readings r r' → P.Read P.Same
          ((inner >>= fun arg => builtinArguments inner false n >>= fun rest =>
            pure (arg.code :: rest)) r)
          ((inner' >>= fun arg => builtinArguments inner' false n >>= fun rest =>
            pure (arg.code :: rest)) r') := by
        intro r r' h
        refine (hi h).bind fun f f' r₁ r₁' _ hf h₁ => ?_
        refine (ih h₁ false).bind fun codes codes' r₂ r₂' _ hcodes h₂ => ?_
        exact ⟨hf.map₂ hcodes fun f codes => f.code :: codes, h₂⟩
      cases first with
      | true => exact hrest h
      | false =>
          exact (paired_expect h rfl (.same _)).bind fun _ _ r₁ r₁' _ _ h₁ => hrest h₁

theorem paired_builtin (hi : P.Readers inner inner') (h : P.Readings r r') {word : Builtin}
    (hk : r.cursor.here.kind = .builtin word) :
    P.Read P.Same (builtin inner r) (builtin inner' r') := by
  refine (paired_advance h (by rw [hk]; rfl)).bind fun t t' r₁ r₁' hadv ht h₁ => ?_
  cases hadv
  have hk' : t'.kind = .builtin word := (P.kind ht.tokens).symm.trans hk
  rw [hk, hk']
  refine (paired_expect h₁ rfl (.missingArguments ht)).bind fun _ _ r₂ r₂' _ _ h₂ => ?_
  refine (paired_builtinArguments hi h₂ true _).bind fun codes codes' r₃ r₃' _ hcodes h₃ => ?_
  refine (paired_expect h₃ rfl (.unclosedWord ht)).bind fun _ _ r₄ r₄' _ _ h₄ => ?_
  exact ⟨hcodes.map (Fragment.call word.routine), h₄⟩

/-- The arguments behind the first. The second run has as many more rounds as it
has more tokens ahead. -/
theorem paired_argumentList_more (hi : P.Readers inner inner') (hr : Reads types depth inner)
    (h : P.Readings r r') {n : Nat} (hn : r.cursor.ahead.length < n) :
    P.Read P.Same (argumentList inner false n r) (argumentList inner' false (n + P.gap) r') := by
  induction n generalizing r r' with
  | zero => omega
  | succ n ih =>
      rw [Nat.add_right_comm]
      unfold argumentList
      rw [bind_ok current_eq, bind_ok current_eq, h.kind]
      split
      · exact ⟨.refl _, h⟩
      · refine (paired_expect h rfl (.same _)).bind fun _ _ r₁ r₁' h₀ _ h₁ => ?_
        obtain ⟨comma, c₁, -, hm₁, rfl⟩ := of_expect_ok h.quiet (P.isSealed h.cursors) (by simp) h₀
        refine (hi h₁).bind fun f f' r₂ r₂' h₀ hf h₂ => ?_
        obtain ⟨e, c₂, hm₂, -, -, -, rfl⟩ := hr.sound h₁.quiet (P.isSealed h₁.cursors) h₀
        have hlen₁ := hm₁.length_ahead
        have hlen₂ := hm₂.length_ahead
        rw [List.length_singleton] at hlen₁
        rw [Reading.cursor_move] at hlen₂
        refine (ih h₂ (by rw [Reading.cursor_move]; omega)).bind
          fun codes codes' r₃ r₃' _ hcodes h₃ => ?_
        exact ⟨hf.map₂ hcodes fun f codes => f.code :: codes, h₃⟩

theorem paired_callArguments (hi : P.Readers inner inner') (hr : Reads types depth inner)
    (h : P.Readings r r') :
    P.Read P.Same (callArguments inner r) (callArguments inner' r') := by
  have hlist : P.Read P.Same (argumentList inner true (r.cursor.ahead.length + 2) r)
      (argumentList inner' true (r'.cursor.ahead.length + 2) r') := by
    unfold argumentList
    rw [bind_ok current_eq, bind_ok current_eq, h.kind]
    split
    · exact ⟨.refl _, h⟩
    · refine (hi h).bind fun f f' r₁ r₁' h₀ hf h₁ => ?_
      obtain ⟨e, c₁, hm₁, -, -, -, rfl⟩ := hr.sound h.quiet (P.isSealed h.cursors) h₀
      have hlen := hm₁.length_ahead
      rw [P.ahead h.cursors, Nat.add_right_comm]
      refine (paired_argumentList_more hi hr h₁ (by rw [Reading.cursor_move]; omega)).bind
        fun codes codes' r₂ r₂' _ hcodes h₂ => ?_
      exact ⟨hf.map₂ hcodes fun f codes => f.code :: codes, h₂⟩
  unfold callArguments
  rw [bind_ok remaining_eq, bind_ok remaining_eq]
  refine hlist.bind fun codes codes' r₁ r₁' _ hcodes h₁ => ?_
  refine (paired_expect h₁ rfl (.same _)).bind fun _ _ r₂ r₂' _ _ h₂ => ?_
  exact ⟨hcodes.map (Text.joinWith ", "), h₂⟩

theorem paired_reference (hi : P.Readers inner inner') (hr : Reads types depth inner)
    (ht : P.Same types types') (h : P.Readings r r') (hk : r.cursor.here.kind = .identifier) :
    P.Read P.Same (reference types inner r) (reference types' inner' r') := by
  refine (paired_advance h (by rw [hk]; rfl)).bind fun t t' r₁ r₁' hadv htok h₁ => ?_
  cases hadv
  have hname := P.same_value htok.tokens (by rw [hk]; rfl)
  refine (paired_accept h₁ rfl).bind fun b b' r₂ r₂' _ hb h₂ => ?_
  subst hb
  cases b with
  | true =>
      refine (paired_callArguments hi hr h₂).bind fun args args' r₃ r₃' _ hargs h₃ => ?_
      exact ⟨hname.map₂ hargs fun name args =>
        Fragment.mk (name ++ "(" ++ args ++ ")") .integer, h₃⟩
  | false => exact ⟨hname.map₂ ht fun name types => Fragment.mk name (types.lookup name), h₂⟩

theorem paired_group (hi : P.Readers inner inner') (h : P.Readings r r')
    (hk : r.cursor.here.kind = .lparen) :
    P.Read P.Same (group inner r) (group inner' r') := by
  refine (paired_advance h (by rw [hk]; rfl)).bind fun _ _ r₁ r₁' _ _ h₁ => ?_
  refine (hi h₁).bind fun f f' r₂ r₂' _ hf h₂ => ?_
  refine (paired_expect h₂ rfl (.same _)).bind fun _ _ r₃ r₃' _ _ h₃ => ?_
  exact ⟨hf.map fun f => Fragment.mk ("(" ++ f.code ++ ")") f.kind, h₃⟩

def SameParts (P : Pairing) : Option Fragment → Option Fragment → Prop
  | some p, some p' => P.Same p p'
  | none, none => True
  | _, _ => False

theorem paired_part? (hi : P.Readers inner inner') (hr : Reads types depth inner)
    (ht : P.Same types types') (h : P.Readings r r') :
    P.Read (SameParts P) (part? types inner r) (part? types' inner' r') := by
  unfold part?
  rw [bind_ok current_eq, bind_ok current_eq, h.kind]
  cases hk : r.cursor.here.kind with
  | string =>
      have hvalue := P.same_value h.here (by rw [hk]; rfl)
      exact ⟨hvalue.map Fragment.literal, h.next (by rw [hk]; rfl)⟩
  | integer =>
      have hvalue := P.same_value h.here (by rw [hk]; rfl)
      exact ⟨hvalue.map fun value => Fragment.mk value .integer, h.next (by rw [hk]; rfl)⟩
  | builtin word => exact (paired_builtin hi h hk).bind fun _ _ _ _ _ hf h₁ => ⟨hf, h₁⟩
  | identifier => exact (paired_reference hi hr ht h hk).bind fun _ _ _ _ _ hf h₁ => ⟨hf, h₁⟩
  | operator o => exact ⟨.refl _, h.next (by rw [hk]; rfl)⟩
  | lparen => exact (paired_group hi h hk).bind fun _ _ _ _ _ hf h₁ => ⟨hf, h₁⟩
  | _ => exact ⟨trivial, h⟩

theorem paired_parts (hi : P.Readers inner inner') (hr : Reads types depth inner)
    (ht : P.Same types types') (h : P.Readings r r') {n : Nat} (hn : r.cursor.ahead.length < n) :
    P.Read P.Same (parts types inner n r) (parts types' inner' (n + P.gap) r') := by
  induction n generalizing r r' with
  | zero => omega
  | succ n ih =>
      rw [Nat.add_right_comm]
      refine (paired_part? hi hr ht h).bind fun p p' r₁ r₁' h₀ hp h₁ => ?_
      cases p with
      | none =>
          cases p' with
          | none => exact ⟨.refl _, h₁⟩
          | some p' => exact hp.elim
      | some p =>
          cases p' with
          | none => exact hp.elim
          | some p' =>
              rcases of_part?_ok hr h.quiet (P.isSealed h.cursors) h₀ with
                ⟨hnone, -, -⟩ | ⟨q, c₁, hat, -, rfl⟩
              · cases hnone
              · have hlen := hat.moves.length_ahead
                have hpos := List.length_pos_iff.2 q.yield_ne_nil
                refine (ih h₁ (by rw [Reading.cursor_move]; omega)).bind
                  fun ps ps' r₂ r₂' _ hps h₂ => ?_
                exact ⟨Pairing.Same.map₂ hp hps List.cons, h₂⟩

theorem paired_expressionOver (hi : P.Readers inner inner') (hr : Reads types depth inner)
    (ht : P.Same types types') (h : P.Readings r r') :
    P.Read P.Same (expressionOver types inner r) (expressionOver types' inner' r') := by
  unfold expressionOver
  rw [bind_ok remaining_eq, bind_ok remaining_eq, P.ahead h.cursors, Nat.add_right_comm]
  refine (paired_parts hi hr ht h (Nat.lt_succ_self _)).bind fun ps ps' r₁ r₁' _ hps h₁ => ?_
  refine (paired_note h₁ _ _).bind fun _ _ r₂ r₂' _ _ h₂ => ?_
  exact ⟨hps.map Fragment.ofParts, h₂⟩

end

/-- Expressions are read alike in two runs that stand at corresponding places. -/
theorem paired_expression {types types' : TypeTable} (ht : P.Same types types') (depth : Nat)
    (h : P.Readings r r') :
    P.Read P.Same (Read.expression types depth r) (Read.expression types' depth r') := by
  induction depth generalizing r r' with
  | zero => exact (paired_fail (α := Fragment) h (.same _))
  | succ depth ih => exact paired_expressionOver ih (reads_expression types depth) ht h

/-! ## Parameters and skipped tokens -/

theorem paired_parameters (h : P.Readings r r') {n : Nat} (hn : r.cursor.ahead.length < n)
    (first : Bool) :
    P.Read P.Same (parameters first n r) (parameters first (n + P.gap) r') := by
  induction n generalizing first r r' with
  | zero => omega
  | succ n ih =>
      rw [Nat.add_right_comm]
      -- a name and what follows it, behind the comma if there has to be one
      have hname : ∀ {r r'}, P.Readings r r' → r.cursor.ahead.length < n + 1 →
          P.Read P.Same
          ((expect .identifier .missingParameter >>= fun name => parameters false n >>= fun rest =>
            pure (name.value :: rest)) r)
          ((expect .identifier .missingParameter >>= fun name =>
            parameters false (n + P.gap) >>= fun rest => pure (name.value :: rest)) r') := by
        intro r r' h hlt
        refine (paired_expect h rfl (.same _)).bind fun t t' r₁ r₁' h₀ ht h₁ => ?_
        obtain ⟨name, c₁, -, hm₁, rfl⟩ := of_expect_ok h.quiet (P.isSealed h.cursors) (by simp) h₀
        have hlen := hm₁.length_ahead
        rw [List.length_singleton] at hlen
        refine (ih h₁ (by rw [Reading.cursor_move]; omega) false).bind
          fun rest rest' r₂ r₂' _ hrest h₂ => ?_
        have hvalue := P.same_value ht.1 (by rw [ht.2]; rfl)
        exact ⟨hvalue.map₂ hrest List.cons, h₂⟩
      unfold parameters
      rw [bind_ok current_eq, bind_ok current_eq, h.kind]
      split
      · exact ⟨.refl _, h⟩
      · cases first with
        | true => exact hname h hn
        | false =>
            refine (paired_expect h rfl (.same _)).bind fun _ _ r₁ r₁' h₀ _ h₁ => ?_
            obtain ⟨comma, c₁, -, hm₁, rfl⟩ :=
              of_expect_ok h.quiet (P.isSealed h.cursors) (by simp) h₀
            have hlen := hm₁.length_ahead
            exact hname h₁ (by rw [Reading.cursor_move]; omega)

theorem paired_skip (h : P.Readings r r') (hk : r.cursor.here.kind.endsLine = false) :
    P.Read Eq (skip r) (skip r') := by
  refine (paired_advance h hk).bind fun t t' r₁ r₁' _ ht h₁ => ?_
  rw [← P.kind ht.tokens]
  split
  · exact (paired_remark h₁ _ ht).bind fun _ _ _ _ _ _ h₂ => paired_note h₂ _ _
  · exact paired_note h₁ _ _

end Read

end StageZero
