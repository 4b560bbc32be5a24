import StageZero.Proofs.Acceptance
import StageZero.Proofs.Respelling

/-!
# Kinds decide

Kinds of variables, names and the values of literals flow through the generator
into what it writes. None of them decides which token is read next, whether a run
goes on, or how many lines come of it: all this follows from the kinds of the
tokens alone. So the kinds have a verdict, and every list of tokens of these kinds
gets it. A list that is refused is refused at the place the verdict names.

Two lists of the same kinds are compared by the pairing that takes their tokens one
by one and promises nothing about values. To have one place for all lists, each of
them is compared with the same list, in which every token carries its own place.
-/

namespace StageZero

/-- What becomes of the token lists of given kinds. -/
inductive Verdict where
  /-- So many lines of the main body and functions are written, and remarks of these
  codes are made. -/
  | accepted (lines functions : Nat) (codes : List String)
  /-- The token at this place is at fault. -/
  | refused (place : Nat)
  deriving DecidableEq

/-- A run over tokens ends as the verdict says. -/
def Verdict.IsOf (tokens : List Token) (report : Report) :
    Verdict → EStateM.Result Failure State Unit → Prop
  | .accepted lines functions codes, .ok _ s =>
      s.output.main.size = lines ∧ s.output.functions.size = functions ∧
        s.report.warnings.toList.map (·.code) = report.warnings.toList.map (·.code) ++ codes
  | .refused place, .error (.fault _ _ tok) _ =>
      (Cursor.ofTokens tokens).tokens[place]? = some tok
  | _, _ => False

/-- A run that is accepted has one verdict. -/
theorem Verdict.eq_accepted {tokens : List Token} {report : Report} {v : Verdict}
    {lines functions : Nat} {codes : List String} {r : EStateM.Result Failure State Unit}
    (h : v.IsOf tokens report r) (h' : (accepted lines functions codes).IsOf tokens report r) :
    v = accepted lines functions codes := by
  cases r with
  | error e s => exact h'.elim
  | ok _ s =>
      obtain ⟨hlines, hfunctions, hcodes⟩ := h'
      cases v with
      | refused place => exact h.elim
      | accepted lines' functions' codes' =>
          obtain ⟨hlines', hfunctions', hcodes'⟩ := h
          rw [← hlines, ← hlines', ← hfunctions, ← hfunctions',
            List.append_cancel_left (hcodes'.symm.trans hcodes)]

/-- The index of the token at fault. -/
def Failure.index : Failure → Nat
  | .fault _ _ tok => tok.pos.index.toNat
  | _ => 0

/-- Tokens of given kinds, each with its place for an index, counted from `n`. -/
def numbered (n : Nat) : List TokenKind → List Token
  | [] => []
  | kind :: kinds => ⟨kind, "_", ⟨n, 1, 1⟩⟩ :: numbered (n + 1) kinds

theorem kinds_numbered (n : Nat) (kinds : List TokenKind) :
    (numbered n kinds).map (·.kind) = kinds := by
  induction kinds generalizing n with
  | nil => rfl
  | cons kind kinds ih => exact congrArg (kind :: ·) (ih (n + 1))

namespace Cursor

theorem forall₂_terminate {t t' : Token} {ts ts' : List Token} (ht : t.kind = t'.kind)
    (h : List.Forall₂ (fun t t' : Token => t.kind = t'.kind) ts ts') :
    List.Forall₂ (fun t t' : Token => t.kind = t'.kind) (terminate t ts) (terminate t' ts') := by
  induction h generalizing t t' with
  | nil =>
      unfold terminate
      rw [ht]
      split
      · exact .nil
      · exact .cons rfl .nil
  | cons hu _ ih => exact .cons hu (ih hu)

/-- The end of input is supplied to both lists or to none. -/
theorem forall₂_rest_ofTokens {tokens tokens' : List Token}
    (h : tokens.map (·.kind) = tokens'.map (·.kind)) :
    List.Forall₂ (fun t t' : Token => t.kind = t'.kind) (ofTokens tokens).rest
      (ofTokens tokens').rest := by
  have hkinds : List.Forall₂ (fun t t' : Token => t.kind = t'.kind) tokens tokens' := by
    rwa [← List.forall₂_eq_eq_eq, List.forall₂_map_left_iff, List.forall₂_map_right_iff] at h
  cases hkinds with
  | nil => exact .cons rfl .nil
  | cons ht hts => exact .cons ht (forall₂_terminate ht hts)

theorem tokens_ofTokens (tokens : List Token) :
    (ofTokens tokens).tokens = (ofTokens tokens).rest := by
  cases tokens <;> rfl

theorem index_terminate_numbered {t u : Token} {n i : Nat} (ht : t.pos.index = n)
    (hvalue : t.value.length = 1) (kinds : List TokenKind)
    (h : (terminate t (numbered (n + 1) kinds))[i]? = some u) :
    u.pos.index = (n + 1 + i : Nat) := by
  induction kinds generalizing t n i with
  | nil =>
      unfold numbered terminate at h
      split at h
      · cases h
      · obtain ⟨rfl, rfl⟩ : i = 0 ∧ t.eofAfter = u := by
          cases i with
          | zero => exact ⟨rfl, Option.some.inj h⟩
          | succ i => cases h
        show t.pos.index + t.value.length = _
        rw [ht, hvalue]
        omega
  | cons kind kinds ih =>
      cases i with
      | zero =>
          cases h
          rfl
      | succ i =>
          have hlength : "_".length = 1 := by decide
          have hi := ih (t := ⟨kind, "_", ⟨(n + 1 : Nat), 1, 1⟩⟩) rfl hlength h
          rw [hi]
          omega

/-- Every token of a numbered list tells where it stands. -/
theorem index_numbered (kinds : List TokenKind) {i : Nat} {u : Token}
    (h : (ofTokens (numbered 0 kinds)).rest[i]? = some u) : u.pos.index = (i : Nat) := by
  cases kinds with
  | nil =>
      cases i with
      | zero => cases h; rfl
      | succ i => cases h
  | cons kind kinds =>
      cases i with
      | zero => cases h; rfl
      | succ i =>
          have hi := index_terminate_numbered (t := ⟨kind, "_", ⟨(0 : Nat), 1, 1⟩⟩) rfl
            (show "_".length = 1 by decide) kinds h
          rw [hi]
          omega

end Cursor

/-! ## Comparing runs -/

/-- Runs over lists of the same kinds agree, whatever values are in the lists. -/
theorem Gen.run_sameKinds {tokens tokens' : List Token}
    (h : tokens.map (·.kind) = tokens'.map (·.kind)) (depth : Nat) (report report' : Report) :
    ∃ P : Pairing, P.report = report ∧ P.report' = report' ∧
      (∀ t t', P.Tokens t t' →
        SamePlace (Cursor.ofTokens tokens).rest (Cursor.ofTokens tokens').rest t t') ∧
      P.Gen Eq (run (depth + 1) (.ofTokens tokens report false))
        (run (depth + 1) (.ofTokens tokens' report' false)) := by
  let P := Pairing.oneByOne False report report'
    (fun t t' => t.kind = t'.kind ∧
      SamePlace (Cursor.ofTokens tokens).rest (Cursor.ofTokens tokens').rest t t')
    (fun ht => ht.1) (fun hx _ => hx.elim)
  have hstart : P.States (.ofTokens tokens report false) (.ofTokens tokens' report' false) := by
    refine .start ⟨⟨Cursor.sealed_ofTokens _, Cursor.sealed_ofTokens _⟩, ?_⟩
    exact forall₂_samePlace (Cursor.forall₂_rest_ofTokens h)
  refine ⟨P, rfl, rfl, fun t t' ht => ht.2, ?_⟩
  rcases Gen.course_run (.never _ _) (Nat.succ_pos depth) hstart with hagree | ⟨hparts, -⟩
  · exact hagree
  · exact hparts.elim

theorem Report.codes_remarkAll (report : Report) (remarks : List (Remark × Token)) :
    (report.remarkAll remarks).warnings.toList.map (·.code) =
      report.warnings.toList.map (·.code) ++ remarks.map (·.1.code) := by
  simp [remarkAll, diagnose]

/-- A verdict does not see a trace. -/
theorem Verdict.isOf_of_quiet {tokens : List Token} {report : Report} {v : Verdict} {depth : Nat}
    (h : v.IsOf tokens report (Gen.run depth (.ofTokens tokens report false))) (debug : Bool) :
    v.IsOf tokens report (Gen.run depth (.ofTokens tokens report debug)) := by
  have hsilent := Gen.silent_run depth (.ofTokens tokens report debug)
  rw [Gen.quiet_ofTokens] at hsilent
  rw [hsilent] at h
  cases hrun : Gen.run depth (.ofTokens tokens report debug) with
  | ok _ s =>
      rw [hrun] at h
      cases v <;> exact h
  | error e s =>
      rw [hrun] at h
      cases v <;> cases e <;> exact h

/-- The kinds of its tokens decide whether a run succeeds, how many lines and
functions it then writes and which remarks it makes, and which token is at fault if it
does not. -/
theorem kinds_decide (depth : Nat) (kinds : List TokenKind) :
    ∃ v : Verdict, ∀ tokens : List Token, tokens.map (·.kind) = kinds →
      ∀ (report : Report) (debug : Bool),
        v.IsOf tokens report (Gen.run (depth + 1) (.ofTokens tokens report debug)) := by
  have hsame : ∀ tokens : List Token, tokens.map (·.kind) = kinds →
      (numbered 0 kinds).map (·.kind) = tokens.map (·.kind) := fun tokens hkinds => by
    rw [kinds_numbered, hkinds]
  cases hrun : Gen.run (depth + 1) (.ofTokens (numbered 0 kinds) (.ofSource "") false) with
  | ok _ s =>
      refine ⟨.accepted s.output.main.size s.output.functions.size
        (s.report.warnings.toList.map (·.code)), fun tokens hkinds report debug => ?_⟩
      refine Verdict.isOf_of_quiet ?_ debug
      obtain ⟨P, hreport, hreport', -, hagree⟩ :=
        Gen.run_sameKinds (hsame tokens hkinds) depth (.ofSource "") report
      rw [hrun] at hagree
      obtain ⟨_, s', hrun', -, hstates⟩ := hagree.of_ok
      obtain ⟨ms, ms', hms, hr, hr'⟩ := hstates.readings.reports
      have hcodes : ms.map (·.1.code) = ms'.map (·.1.code) := by
        rw [← List.forall₂_eq_eq_eq, List.forall₂_map_left_iff, List.forall₂_map_right_iff]
        exact hms.imp fun m m' hm => congrArg Remark.code hm.1
      rw [hrun']
      refine ⟨hstates.output.main.symm, hstates.output.functions.symm, ?_⟩
      rw [hr, hr', hreport, hreport', Report.codes_remarkAll, Report.codes_remarkAll, hcodes]
      rfl
  | error e s =>
      refine ⟨.refused e.index, fun tokens hkinds report debug => Verdict.isOf_of_quiet ?_ debug⟩
      obtain ⟨P, -, -, hplaces, hagree⟩ :=
        Gen.run_sameKinds (hsame tokens hkinds) depth (.ofSource "") report
      rw [hrun] at hagree
      obtain ⟨e', s', hrun', hfailure, -⟩ := hagree.of_error
      rw [hrun']
      cases hfailure with
      | @fault cause cause' t t' hc ht =>
          obtain ⟨n, hn, hn'⟩ := hplaces t t' ht
          have hplace : t.pos.index.toNat = n := by
            rw [Cursor.index_numbered kinds hn]
            rfl
          show (Cursor.ofTokens tokens).tokens[t.pos.index.toNat]? = some t'
          rw [Cursor.tokens_ofTokens, hplace]
          exact hn'

/-- A name that stands alone, a variable, and one that is printed. -/
def plainSource : String :=
  "z var x = \"a\" print x"

/-- The same kinds of tokens in other words. -/
def renamedSource : String :=
  "w var y = \"\" cetak x"

theorem kinds_decide_renamed :
    (tokenize plainSource).map (·.kind) = (tokenize renamedSource).map (·.kind) ∧
      (Verdict.accepted 2 0 ["SYN006"]).IsOf (tokenize plainSource) (.ofSource "")
        (Gen.run nestingLimit (.ofTokens (tokenize plainSource) (.ofSource "") false)) ∧
      (Verdict.accepted 2 0 ["SYN006"]).IsOf (tokenize renamedSource) (.ofSource "")
        (Gen.run nestingLimit (.ofTokens (tokenize renamedSource) (.ofSource "") true)) := by
  have hkinds : (tokenize plainSource).map (·.kind) = (tokenize renamedSource).map (·.kind) := by
    decide +kernel
  have hok : succeeds (Gen.run nestingLimit
      (.ofTokens (tokenize plainSource) (.ofSource "") false)) = true := by
    decide +kernel
  obtain ⟨_, s, hrun⟩ := exists_of_succeeds hok
  have hs : ending (Gen.run nestingLimit (.ofTokens (tokenize plainSource) (.ofSource "") false)) =
      s := congrArg ending hrun
  have hfirst : (Verdict.accepted 2 0 ["SYN006"]).IsOf (tokenize plainSource) (.ofSource "")
      (Gen.run nestingLimit (.ofTokens (tokenize plainSource) (.ofSource "") false)) := by
    rw [hrun, ← hs]
    refine ⟨?_, ?_, ?_⟩ <;> decide +kernel
  -- the second run is not evaluated: it has the verdict of the first
  obtain ⟨v, hv⟩ := kinds_decide 999 ((tokenize plainSource).map (·.kind))
  obtain rfl := Verdict.eq_accepted (hv _ rfl _ _) hfirst
  exact ⟨hkinds, hfirst, hv _ hkinds.symm _ _⟩

end StageZero
