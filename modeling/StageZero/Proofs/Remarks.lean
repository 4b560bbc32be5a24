import StageZero.Proofs.Acceptance
import StageZero.Proofs.Diagnoses
import StageZero.Proofs.Tiling

/-!
# What is remarked on

An illegal character ends an expression without a word. It is mentioned when a
statement is looked for and not found, and no other step passes over one: whatever
is expected, accepted or looked ahead for is of another kind. So a run that succeeds
has mentioned every illegal character before the end of input, each of them once and
in order. On the tree this is a filter of its tokens.

For a run that stops there is no tree. But a remark is always on the token that was
read last, so the remarks of any run are on some of the tokens it has passed, in
their order, and the token at fault is not among these. In the tokens of a source
indexes increase, and so they do in the warnings.
-/

namespace StageZero

open StageZero.Tree

/-! ## Illegal characters -/

namespace Tree

theorem Without.filter_eq_nil {kind : TokenKind} {ts : List Token} (h : Without kind ts) :
    ts.filter (·.kind = kind) = [] :=
  List.filter_eq_nil_iff.2 fun t ht => by simpa using h t ht

@[simp] theorem Expr.filter_unknown (e : Expr) : e.yield.filter (·.kind = .unknown) = [] :=
  Without.filter_eq_nil (without_of_inExpression e.inExpression_yield rfl)

@[simp] theorem Args.filter_unknown {n : Nat} (a : Args n) :
    a.yield.filter (·.kind = .unknown) = [] :=
  Without.filter_eq_nil (without_of_inExpression a.inExpression_yield rfl)

@[simp] theorem Params.filter_unknown (params : Params) :
    params.yield.filter (·.kind = .unknown) = [] :=
  Without.filter_eq_nil (without_of_inExpression params.inExpression_yield rfl)

@[simp] theorem Test.filter_unknown (t : Test) : t.yield.filter (·.kind = .unknown) = [] := by
  simp [Test.yield]

@[simp] theorem filter_unknown_lineYield (lines : List Mark) :
    (lineYield lines).filter (·.kind = .unknown) = [] := by
  refine Without.filter_eq_nil fun t ht hk => ?_
  rw [lineYield_kind t ht] at hk
  cases hk

namespace Emission

/-- The illegal characters that are mentioned. -/
def illegal (e : Emission) : List Token :=
  (e.remarks.filter (·.1 = .illegalCharacter)).map (·.2)

variable (e f : Emission) (indent : Nat) (tok : Token)

@[simp] theorem illegal_append : (e ++ f).illegal = e.illegal ++ f.illegal := by
  simp [illegal, append_def, append]

@[simp] theorem illegal_empty : empty.illegal = [] := rfl

@[simp] theorem illegal_line (code : String) : (line indent code).illegal = [] := rfl

@[simp] theorem illegal_enclosed (head : String) : (enclosed indent head e).illegal = e.illegal := by
  simp [enclosed]

@[simp] theorem illegal_function (name : String) (params : List String) :
    (function name params e).illegal = e.illegal := rfl

@[simp] theorem illegal_remark_illegalCharacter : (remark .illegalCharacter tok).illegal = [tok] :=
  rfl

@[simp] theorem illegal_remark_idleName : (remark .idleName tok).illegal = [] := rfl

@[simp] theorem illegal_remark_strayBrace : (remark .strayBrace tok).illegal = [] := rfl

end Emission

mutual

/-- The illegal characters among the tokens of a statement are the ones that are
mentioned. -/
theorem Stmt.illegal_emission (types : TypeTable) (indent : Nat) :
    (s : Stmt) → (s.emission types indent).illegal = s.yield.filter (·.kind = .unknown)
  | .declare _ _ _ _ => by
      simp [Stmt.emission, Stmt.yield, Emission.illegal]
  | .print _ _ | .writeFile _ _ _ _ _ _ | .readFile _ _ _ _ | .assign _ _ _ | .call _ _ _ _
  | .idle _ => by
      simp [Stmt.emission, Stmt.yield]
  | .give _ value => by
      unfold Stmt.emission
      split <;> simp [Stmt.yield]
  | .loop _ _ body => by
      simp [Stmt.emission, Stmt.yield, body.illegal_emission]
  | .branch _ _ body links other => by
      simp [Stmt.emission, Stmt.yield, body.illegal_emission, links.illegal_emission,
        other.illegal_emission]
  | .function _ _ _ _ _ body => by
      simp [Stmt.emission, Stmt.yield, body.illegal_emission]
  | .skipped tok _ => by
      by_cases hk : tok.kind = .unknown <;> simp [Stmt.emission, Stmt.yield, hk]

theorem Block.illegal_emission (types : TypeTable) (indent : Nat) :
    (b : Block) → (b.emission types indent).illegal = b.yield.filter (·.kind = .unknown)
  | .mk _ items _ => by
      simp [Block.emission, Block.yield, items.illegal_emission]

theorem Items.illegal_emission (types : TypeTable) (indent : Nat) : (items : Items) →
    (items.emission types indent).illegal = items.yield.filter (·.kind = .unknown)
  | .nil => rfl
  | .line _ rest => by
      simp [Items.emission, Items.yield, rest.illegal_emission]
  | .stmt s rest => by
      simp [Items.emission, Items.yield, s.illegal_emission, rest.illegal_emission]

theorem Links.illegal_emission (types : TypeTable) (indent : Nat) : (links : Links) →
    (links.emission types indent).illegal = links.yield.filter (·.kind = .unknown)
  | .nil => rfl
  | .cons _ _ _ _ body rest => by
      simp [Links.emission, Links.yield, body.illegal_emission, rest.illegal_emission]

theorem Other.illegal_emission (types : TypeTable) (indent : Nat) : (other : Other) →
    (other.emission types indent).illegal = other.yield.filter (·.kind = .unknown)
  | .none => rfl
  | .some _ _ body => by
      simp [Other.emission, Other.yield, body.illegal_emission]

end

theorem illegal_emission (types : TypeTable) (p : Program) :
    (emission types p).illegal = (yield p).filter (·.kind = .unknown) := by
  induction p generalizing types with
  | nil => rfl
  | cons t p ih =>
      have htop : (t.emission types).illegal = t.yield.filter (·.kind = .unknown) := by
        cases t with
        | line m => rfl
        | stray m => rfl
        | stmt s => exact s.illegal_emission types 1
      rw [yield_cons, List.filter_append, emission, Emission.illegal_append, htop, ih]

end Tree

/-- Of the remarks in a report, those on illegal characters carry a code of their
own. -/
theorem Report.filter_warnings_ofSource (source : String) (remarks : List (Remark × Token)) :
    ((ofSource source).remarkAll remarks).warnings.toList.filter
        (·.code = Remark.illegalCharacter.code) =
      ((remarks.filter (·.1 = .illegalCharacter)).map (·.2)).map
        ((ofSource source).diagnose Remark.illegalCharacter.code
          Remark.illegalCharacter.message) := by
  rw [warnings_ofSource, List.filter_map, List.map_map]
  have hcode : ((fun d : Diagnostic => decide (d.code = Remark.illegalCharacter.code)) ∘
      fun m : Remark × Token => (ofSource source).diagnose m.1.code m.1.message m.2) =
      fun m => decide (m.1 = .illegalCharacter) := by
    funext m
    obtain ⟨r, tok⟩ := m
    cases r <;> rfl
  rw [hcode]
  refine List.map_congr_left fun m hm => ?_
  obtain ⟨r, tok⟩ := m
  obtain rfl : r = .illegalCharacter := by simpa using (List.mem_filter.1 hm).2
  rfl

/-! ## The order of the remarks -/

/-- What a step remarks on it has passed. Where it stops, the token at fault is the
next. -/
theorem Orderly.remarks_passed {α : Type} {k : Nat} {deep : Prop} {s : State}
    {x : EStateM.Result Failure State α} (h : Orderly State.toReading k deep s.toReading x) :
    ∃ (before behind : List Token) (remarks : List (Remark × Token)),
      s.cursor.rest = before ++ behind ∧ (remarks.map (·.2)).Sublist before ∧
      (ending x).report.warnings = (s.report.remarkAll remarks).warnings ∧
      ∀ e s', x = .error e s' → ∃ cause d tok, e = .fault cause d tok ∧ tok ∈ behind := by
  cases h with
  | ok hr =>
      obtain ⟨ts, remarks, hm, -, -, hsub, hreport⟩ := hr.way
      refine ⟨ts, _, remarks, hm.rest, hsub, congrArg Report.warnings hreport, fun e s' he => ?_⟩
      cases he
  | @fault cause r' t hr hd hc he =>
      obtain ⟨ts, remarks, hm, -, -, hsub, hreport⟩ := hr.way
      refine ⟨ts, _, remarks, hm.rest, hsub, ?_, fun e s' heq => ?_⟩
      · show t.report.warnings = _
        rw [he, ← hreport]
        rfl
      · cases heq
        exact ⟨_, _, _, rfl, List.mem_cons_self⟩

/-- Every illegal character before the end of input is mentioned by a run that
succeeds, once and in order. Over the tokens of a source the places of all warnings
increase, and when the run stops they are all before the token at fault. -/
theorem remarks_follow_tokens (depth : Nat) (debug : Bool) :
    (∀ (tokens : List Token) (source : String) (s : State),
      Gen.run depth (.ofTokens tokens (.ofSource source) debug) = .ok () s →
      s.report.warnings.toList.filter (·.code = Remark.illegalCharacter.code) =
        ((beforeEnd tokens).filter (·.kind = .unknown)).map
          ((Report.ofSource source).diagnose Remark.illegalCharacter.code
            Remark.illegalCharacter.message)) ∧
    ∀ (source text : String) (x : EStateM.Result Failure State Unit),
      Gen.run depth (.ofTokens (tokenize source) (.ofSource text) debug) = x →
      ((ending x).report.warnings.toList.Pairwise fun d d' => d.pos.index < d'.pos.index) ∧
      ∀ e s, x = .error e s → ∃ cause d tok, e = .fault cause d tok ∧
        ∀ w ∈ s.report.warnings.toList, w.pos.index < tok.pos.index := by
  constructor
  · intro tokens source s hrun
    obtain ⟨p, c, hp, hw⟩ := Gen.of_run_ofTokens hrun
    rw [hw.report, Report.filter_warnings_ofSource, ← hp.yield_eq, ← illegal_emission {} p]
    rfl
  · rintro source text x rfl
    have hsealed : (State.ofTokens (tokenize source) (.ofSource text) debug).cursor.Sealed :=
      Cursor.sealed_ofTokens _
    have hsame : Enough (State.ofTokens (tokenize source) (.ofSource text)
        debug).cursor.ahead.length depth depth := .inl rfl
    obtain ⟨before, behind, remarks, hrest, hsub, hwarnings, hstop⟩ :=
      (Gen.alike_run hsealed hsame).orderly.remarks_passed
    have hincreasing : (before ++ behind).Pairwise fun t u => t.pos.index < u.pos.index := by
      rw [← hrest]
      show ((Cursor.ofTokens (tokenize source)).rest).Pairwise _
      rw [rest_tokenize]
      exact (tiled_lexemes [] source.toList).increasing
    obtain ⟨hbefore, -, hacross⟩ := List.pairwise_append.1 hincreasing
    have hlist : (ending (Gen.run depth
        (.ofTokens (tokenize source) (.ofSource text) debug))).report.warnings.toList =
        remarks.map fun m => (Report.ofSource text).diagnose m.1.code m.1.message m.2 := by
      rw [hwarnings]
      exact Report.warnings_ofSource text remarks
    refine ⟨?_, fun e s hx => ?_⟩
    · have hremarks := hbefore.sublist hsub
      rw [List.pairwise_map] at hremarks
      rw [hlist, List.pairwise_map]
      exact hremarks
    · obtain ⟨cause, d, tok, he, htok⟩ := hstop e s hx
      refine ⟨cause, d, tok, he, fun w hw => ?_⟩
      rw [hx] at hlist
      change s.report.warnings.toList = _ at hlist
      rw [hlist] at hw
      obtain ⟨m, hm, rfl⟩ := List.mem_map.1 hw
      exact hacross m.2 (hsub.subset (List.mem_map_of_mem hm)) tok htok

/-- A run that succeeds over an illegal character, and one that stops behind a name
that does nothing, an illegal character and a brace that closes nothing. -/
theorem remarks_follow_tokens_stray :
    (∃ s, Gen.run 1 (.ofTokens strayTokens (.ofSource "") true) = .ok () s ∧
      s.report.warnings.toList.filter (·.code = Remark.illegalCharacter.code) =
        (strayTokens.filter (·.kind = .unknown)).map
          ((Report.ofSource "").diagnose Remark.illegalCharacter.code
            Remark.illegalCharacter.message)) ∧
      ∃ e s, Gen.run 1 (.ofTokens (tokenize "a @ \x7d var 5") (.ofSource "") true) = .error e s ∧
        s.report.warnings.toList.map (·.code) = ["SYN006", "LEX001", "SYN005"] ∧
        (s.report.warnings.toList.Pairwise fun d d' => d.pos.index < d'.pos.index) ∧
        ∃ cause d tok, e = .fault cause d tok ∧
          ∀ w ∈ s.report.warnings.toList, w.pos.index < tok.pos.index := by
  obtain ⟨hillegal, hplaces⟩ := remarks_follow_tokens 1 true
  constructor
  · have hok : succeeds (Gen.run 1 (.ofTokens strayTokens (.ofSource "") true)) = true := by
      decide +kernel
    obtain ⟨_, s, hs⟩ := exists_of_succeeds hok
    exact ⟨s, hs, hillegal strayTokens "" s hs⟩
  · have hcodes : (ending (Gen.run 1 (.ofTokens (tokenize "a @ \x7d var 5") (.ofSource "")
        true))).report.warnings.toList.map (·.code) = ["SYN006", "LEX001", "SYN005"] := by
      decide +kernel
    have hfails : succeeds (Gen.run 1 (.ofTokens (tokenize "a @ \x7d var 5") (.ofSource "")
        true)) = false := by
      decide +kernel
    cases hrun : Gen.run 1 (.ofTokens (tokenize "a @ \x7d var 5") (.ofSource "") true) with
    | ok _ s =>
        rw [hrun] at hfails
        cases hfails
    | error e s =>
        obtain ⟨hordered, hstop⟩ := hplaces _ _ _ hrun
        rw [hrun] at hcodes
        exact ⟨e, s, rfl, hcodes, hordered, hstop e s rfl⟩

end StageZero
