import StageZero.Proofs.Handling
import StageZero.Proofs.Unfinished

/-!
# The end of input

The generator reads a list of tokens up to its first end of input. A list may go on
behind it, and a list without any is given one; neither makes a difference to what
is generated. The cursor can step over an end of input that is not the last token,
and the look for an alternative to a branch goes past the cursor, so this is a fact
about every loop and every look ahead.

It is shown by one comparison of two runs. Two lists begin with the same tokens,
none of them an end of input. In both an end of input follows, and in the second
anything may stand behind it. The two ends need not be the same token, but they are
never read, remarked on or named in a message, so they are seen only where a fault
is about the end of input itself.
-/

namespace StageZero

namespace Cursor

variable {c : Cursor}

theorem terminate_append (t u : Token) (ts us : List Token) :
    terminate t (ts ++ u :: us) = ts ++ u :: terminate u us := by
  induction ts generalizing t with
  | nil => rfl
  | cons v ts ih => rw [List.cons_append, terminate, ih, List.cons_append]

/-- If a list is given an end of input, it is behind all its tokens. -/
theorem rest_ofTokens_append (ts us : List Token) (u : Token) :
    (ofTokens (ts ++ u :: us)).rest = ts ++ u :: terminate u us := by
  cases ts with
  | nil => rfl
  | cons t ts => exact congrArg (t :: ·) (terminate_append t u ts us)

theorem passed_ofTokens (tokens : List Token) : (ofTokens tokens).passed = [] := by
  cases tokens <;> rfl

/-- The line breaks at the cursor are what is passed over. -/
theorem moves_skipNewlines {lines ts : List Token} (h : c.rest = lines ++ ts)
    (hl : ∀ t ∈ lines, t.kind = .newline) (hne : ts ≠ []) (hk : Tree.nextKind ts ≠ .newline) :
    c.Moves lines c.skipNewlines := by
  obtain ⟨marks, hm, -⟩ := c.skipNewlines_moves
  have hrest := hm.rest
  rw [rest_skipNewlines h hl hne hk, h] at hrest
  rwa [← List.append_cancel_right hrest] at hm

end Cursor

/-- The end of input that is supplied to a list without one. -/
def suppliedEnd (tokens : List Token) : Token :=
  match tokens.getLast? with
  | none => .eof .start
  | some t => t.eofAfter

theorem kind_suppliedEnd (tokens : List Token) : (suppliedEnd tokens).kind = .eof := by
  unfold suppliedEnd
  split <;> rfl

/-- A list without an end of input is read as one that ends in the supplied one. -/
theorem Cursor.ofTokens_suppliedEnd {tokens : List Token} (h : ∀ t ∈ tokens, t.kind ≠ .eof) :
    ofTokens tokens = ofTokens (tokens ++ [suppliedEnd tokens]) := by
  have hend := kind_suppliedEnd tokens
  refine ext_rest ((passed_ofTokens _).trans (passed_ofTokens _).symm) ?_
  rw [rest_ofTokens_of_eof hend]
  rcases List.eq_nil_or_concat tokens with rfl | ⟨ts, t, rfl⟩
  · rfl
  · have ht : t.kind ≠ .eof := h t (by simp)
    rw [List.concat_eq_append, rest_ofTokens_append, List.append_assoc]
    simp [terminate, ht, suppliedEnd]

/-! ## Two lists with the same tokens before the end -/

/-- Two lists that are the same up to the end of input. -/
structure Endings where
  report : Report
  /-- What is before the end of input in both. -/
  front : List Token
  /-- The end of the first list. -/
  last : Token
  /-- The end of input in the second list. -/
  last' : Token
  /-- What the second list has behind it. -/
  behind : List Token
  front_ne : ∀ t ∈ front, t.kind ≠ .eof
  last_eof : last.kind = .eof
  last'_eof : last'.kind = .eof
  behind_eof : ∀ t ∈ (last' :: behind).getLast?, t.kind = .eof

namespace Endings

variable (B : Endings)

/-- The same token, or the two ends of input. -/
def Tokens (t t' : Token) : Prop :=
  (t = t' ∧ t.kind ≠ .eof) ∨ (t = B.last ∧ t' = B.last')

/-- Both cursors have read the same part of what is before the end. -/
structure Cursors (c c' : Cursor) : Prop where
  split : ∃ ts us, B.front = ts ++ us ∧ c.passed = ts.reverse ∧ c'.passed = ts.reverse ∧
    c.rest = us ++ [B.last] ∧ c'.rest = us ++ B.last' :: B.behind

variable {B}

theorem Tokens.kind {t t' : Token} (h : B.Tokens t t') : t.kind = t'.kind := by
  rcases h with ⟨rfl, -⟩ | ⟨rfl, rfl⟩
  · rfl
  · rw [B.last_eof, B.last'_eof]

/-- Where there is a line to be read, the two lists are the same. -/
theorem Tokens.eq {t t' : Token} (h : B.Tokens t t') (hk : t.kind ≠ .eof) : t = t' := by
  rcases h with ⟨heq, -⟩ | ⟨rfl, -⟩
  · exact heq
  · exact absurd B.last_eof hk

namespace Cursors

variable {c c' : Cursor}

theorem here (h : B.Cursors c c') : B.Tokens c.here c'.here := by
  obtain ⟨ts, us, hfront, -, -, hc, hc'⟩ := h.split
  cases us with
  | nil => exact .inr ⟨(List.cons.inj hc).1, (List.cons.inj hc').1⟩
  | cons u us =>
      refine .inl ⟨(List.cons.inj hc).1.trans (List.cons.inj hc').1.symm, ?_⟩
      rw [(List.cons.inj hc).1]
      exact B.front_ne u (by simp [hfront])

/-- Tokens before the end are passed by both cursors. -/
theorem moves {d d' : Cursor} {ts us vs : List Token} (hfront : B.front = ts ++ (us ++ vs))
    (hp : c.passed = ts.reverse) (hp' : c'.passed = ts.reverse)
    (hc : c.rest = us ++ (vs ++ [B.last])) (hc' : c'.rest = us ++ (vs ++ B.last' :: B.behind))
    (hm : c.Moves us d) (hm' : c'.Moves us d') : B.Cursors d d' := by
  refine ⟨ts ++ us, vs, hfront.trans (List.append_assoc ..).symm, ?_, ?_, ?_, ?_⟩
  · rw [hm.passed, hp, List.reverse_append]
  · rw [hm'.passed, hp', List.reverse_append]
  · exact List.append_cancel_left (hm.rest.symm.trans hc)
  · exact List.append_cancel_left (hm'.rest.symm.trans hc')

theorem next (h : B.Cursors c c') (hk : c.here.kind.endsLine = false) :
    B.Cursors c.next c'.next := by
  obtain ⟨ts, us, hfront, hp, hp', hc, hc'⟩ := h.split
  cases us with
  | nil =>
      rw [(List.cons.inj hc).1, B.last_eof] at hk
      cases hk
  | cons u us =>
      obtain ⟨d, hm, -⟩ := Cursor.exists_moves (show c.rest = [u] ++ (us ++ [B.last]) from hc)
        (by simp)
      obtain ⟨d', hm', -⟩ := Cursor.exists_moves
        (show c'.rest = [u] ++ (us ++ B.last' :: B.behind) from hc') (by simp)
      rw [hm.next_eq, hm'.next_eq]
      exact moves hfront hp hp' hc hc' hm hm'

/-- Line breaks are passed over up to a token before the end, or up to the end. -/
theorem skip (h : B.Cursors c c') : B.Cursors c.skipNewlines c'.skipNewlines := by
  obtain ⟨ts, us, hfront, hp, hp', hc, hc'⟩ := h.split
  obtain ⟨lines, vs, rfl, hlines, hvs⟩ := exists_lines us
  rw [List.append_assoc] at hc hc'
  have hstop : ∀ (e : Token) (more : List Token), e.kind = .eof →
      Tree.nextKind (vs ++ e :: more) ≠ .newline := by
    intro e more he
    cases vs with
    | nil =>
        rw [List.nil_append, Tree.nextKind, he]
        simp
    | cons v vs => exact hvs (by simp)
  refine moves hfront hp hp' hc hc' ?_ ?_
  · exact Cursor.moves_skipNewlines hc hlines (by simp) (hstop _ _ B.last_eof)
  · exact Cursor.moves_skipNewlines hc' hlines (by simp) (hstop _ _ B.last'_eof)

theorem isSealed (h : B.Cursors c c') : c.Sealed ∧ c'.Sealed := by
  obtain ⟨ts, us, -, -, -, hc, hc'⟩ := h.split
  obtain ⟨e, he⟩ : ∃ e, (B.last' :: B.behind).getLast? = some e :=
    ⟨_, List.getLast?_eq_some_getLast (List.cons_ne_nil _ _)⟩
  exact ⟨Cursor.sealed_of_rest hc rfl B.last_eof,
    Cursor.sealed_of_rest hc' he (B.behind_eof e he)⟩

theorem ahead (h : B.Cursors c c') :
    c'.ahead.length = c.ahead.length + B.behind.length := by
  obtain ⟨ts, us, -, -, -, hc, hc'⟩ := h.split
  have hlen := congrArg List.length hc
  have hlen' := congrArg List.length hc'
  simp only [Cursor.rest, List.length_cons, List.length_append, List.length_nil] at hlen hlen'
  omega

theorem pos (h : B.Cursors c c') : c.pos = c'.pos := by
  obtain ⟨ts, us, -, hp, hp', -, -⟩ := h.split
  rw [Cursor.pos, Cursor.pos, hp, hp']

/-- Each cursor stands at its own end, or at the token before the end that has as
many tokens before it as it has read. -/
theorem getElem? (h : B.Cursors c c') :
    (B.front ++ [B.last])[c.pos]? = some c.here ∧
      (B.front ++ [B.last'])[c.pos]? = some c'.here := by
  obtain ⟨ts, us, hfront, hp, -, hc, hc'⟩ := h.split
  have hpos : c.pos = ts.length := by rw [Cursor.pos, hp, List.length_reverse]
  rw [hfront, hpos, List.append_assoc, List.append_assoc, List.getElem?_append_right (Nat.le_refl _),
    List.getElem?_append_right (Nat.le_refl _), Nat.sub_self, ← hc]
  refine ⟨rfl, ?_⟩
  cases us with
  | nil => exact congrArg some (List.cons.inj hc').1.symm
  | cons u us => exact congrArg some (List.cons.inj hc').1.symm

end Cursors

/-- The pairing of each token before the end with itself, and of the two ends. -/
def pairing (B : Endings) : Pairing where
  exact := True
  report := B.report
  report' := B.report
  Tokens := B.Tokens
  Cursors := B.Cursors
  gap := B.behind.length
  kind h := h.kind
  value {t t'} _ h hk := by
    refine congrArg Token.value (h.eq fun he => ?_)
    rw [he] at hk
    cases hk
  here h := h.here
  next h := h.next
  isSealed h := h.isSealed.1
  isSealed' h := h.isSealed.2
  ahead h := h.ahead

/-- Neither list ends before the other. -/
def parting (B : Endings) : Parting B.pairing where
  parts := False
  closers _ := False
  skip h := .inl h.skip

/-- What is named in a message or remarked on is the same token in both lists. -/
theorem eq_of_words {t t' : Token} (h : B.pairing.Words t t') : t = t' :=
  h.tokens.eq fun he => by
    have hinside := h.inside
    rw [he] at hinside
    cases hinside

theorem eq_of_causes {cause cause' : Fault} (h : B.pairing.Causes cause cause') :
    cause = cause' := by
  cases h with
  | same => rfl
  | missingArguments h | unclosedWord h | missingFunction h => rw [eq_of_words h]

theorem eq_of_remarks {ms ms' : List (Remark × Token)}
    (h : List.Forall₂ B.pairing.Remarks ms ms') : ms = ms' := by
  rw [← List.forall₂_eq_eq_eq]
  exact h.imp fun m m' hm => Prod.ext hm.1 (eq_of_words hm.2)

end Endings

/-! ## What is generated -/

/-- What is generated over two lists that are the same up to their ends of input.
The documents are the same, or there is a fault of the same cause at the same place
of both lists, and the warnings are the same. -/
inductive SameUpToEnd (report : Report) (front : List Token) (e e' : Token) :
    Except Failure String × State → Except Failure String × State → Prop where
  | ok {document : String} {s s' : State} (hw : s.report.warnings = s'.report.warnings) :
      SameUpToEnd report front e e' (.ok document, s) (.ok document, s')
  | error {cause : Fault} {t t' : Token} {s s' : State} {place : Nat}
      (hpos : s.cursor.pos = place) (hpos' : s'.cursor.pos = place)
      (ht : (front ++ [e])[place]? = some t) (ht' : (front ++ [e'])[place]? = some t')
      (hw : s.report.warnings = s'.report.warnings) :
      SameUpToEnd report front e e'
        (.error (.fault cause (report.diagnose Fault.code cause.message t) t), s)
        (.error (.fault cause (report.diagnose Fault.code cause.message t') t'), s')

/-- Where a fault is raised, the cursor is at its token. -/
theorem Gen.run_fault_here {depth : Nat} {s s' : State} {cause : Fault} {d : Diagnostic}
    {tok : Token} (hs : s.cursor.Sealed) (h : run depth s = .error (.fault cause d tok) s') :
    s'.cursor.here = tok := by
  have hsame : Enough s.cursor.ahead.length depth depth := .inl rfl
  have horderly := (alike_run hs hsame).orderly
  rw [h] at horderly
  cases horderly with
  | fault hr hd hc he => rw [hc]

theorem generate_of_ok {tokens : List Token} {report : Report} {s : State}
    (h : Gen.run nestingLimit (.ofTokens tokens report false) = .ok () s) :
    generate tokens report = (.ok s.output.document, s) := by
  rw [generate, h]

theorem generate_of_error {tokens : List Token} {report : Report} {x : Failure} {s : State}
    (h : Gen.run nestingLimit (.ofTokens tokens report false) = .error x s) :
    generate tokens report = (.error x, s) := by
  rw [generate, h]

theorem generate_sameUpToEnd {front : List Token} {e e' : Token}
    (hfront : ∀ t ∈ front, t.kind ≠ .eof) (he : e.kind = .eof) (he' : e'.kind = .eof)
    (behind : List Token) (report : Report) :
    SameUpToEnd report front e e' (generate (front ++ [e]) report)
      (generate (front ++ e' :: behind) report) := by
  have hrest := Cursor.rest_ofTokens_of_eof he front
  have hrest' := Cursor.rest_ofTokens_append front behind e'
  let B : Endings := {
    report := report
    front := front
    last := e
    last' := e'
    behind := Cursor.terminate e' behind
    front_ne := hfront
    last_eof := he
    last'_eof := he'
    behind_eof := fun t ht => by
      rw [List.getLast?_cons, Option.mem_some_iff, ← List.getLastD_eq_getLast?] at ht
      rw [← ht]
      exact Cursor.terminate_getLast e' behind }
  have hstart : B.pairing.States (.ofTokens (front ++ [e]) report false)
      (.ofTokens (front ++ e' :: behind) report false) :=
    .start ⟨[], front, rfl, Cursor.passed_ofTokens _, Cursor.passed_ofTokens _, hrest, hrest'⟩
  have hagree : B.pairing.Gen Eq
      (Gen.run nestingLimit (.ofTokens (front ++ [e]) report false))
      (Gen.run nestingLimit (.ofTokens (front ++ e' :: behind) report false)) := by
    rcases Gen.course_run B.parting (show 0 < nestingLimit by decide) hstart with
      hagree | ⟨hparts, -⟩
    · exact hagree
    · exact hparts.elim
  cases hrun : Gen.run nestingLimit (.ofTokens (front ++ [e]) report false) with
  | ok _ s =>
      rw [hrun] at hagree
      obtain ⟨_, s', hrun', -, hstates⟩ := hagree.of_ok
      obtain ⟨ms, ms', hms, hr, hr'⟩ := hstates.readings.reports
      have houtput : s.output = s'.output := hstates.output.same trivial
      obtain rfl := B.eq_of_remarks hms
      rw [generate_of_ok hrun, generate_of_ok hrun', houtput]
      exact .ok (congrArg Report.warnings (hr.trans hr'.symm))
  | error x s =>
      rw [hrun] at hagree
      obtain ⟨x', s', hrun', hfailure, hcursors, ms, ms', hms, hw, hw'⟩ := hagree.of_error
      obtain rfl := B.eq_of_remarks hms
      rw [generate_of_error hrun, generate_of_error hrun']
      cases hfailure with
      | @fault cause cause' t t' hc ht =>
          obtain rfl := B.eq_of_causes hc
          obtain rfl := Gen.run_fault_here (Cursor.sealed_ofTokens _) hrun
          obtain rfl := Gen.run_fault_here (Cursor.sealed_ofTokens _) hrun'
          obtain ⟨hplace, hplace'⟩ := hcursors.getElem?
          exact .error rfl hcursors.pos.symm hplace hplace' (hw.trans hw'.symm)

/-- Lists that end alike are generated to the same. -/
theorem SameUpToEnd.eq {report : Report} {front : List Token} {e : Token}
    {r r' : Except Failure String × State} (h : SameUpToEnd report front e e r r') :
    r.1 = r'.1 ∧ r.2.report.warnings = r'.2.report.warnings := by
  cases h with
  | ok hw => exact ⟨rfl, hw⟩
  | error hpos hpos' ht ht' hw =>
      obtain rfl := Option.some.inj (ht.symm.trans ht')
      exact ⟨rfl, hw⟩

/-- The first end of input ends the input. What is behind it changes neither the
document or the fault nor the warnings. A list without an end of input is generated
like the list with one behind it; a fault at the end of input is then about the token
that was supplied. -/
theorem first_end_ends_input {a : List Token} {e : Token} (ha : ∀ t ∈ a, t.kind ≠ .eof)
    (he : e.kind = .eof) (b : List Token) (report : Report) :
    ((generate (a ++ [e] ++ b) report).1 = (generate (a ++ [e]) report).1 ∧
      (generate (a ++ [e] ++ b) report).2.report.warnings =
        (generate (a ++ [e]) report).2.report.warnings) ∧
    SameUpToEnd report a (suppliedEnd a) e (generate a report) (generate (a ++ [e]) report) := by
  constructor
  · rw [List.append_assoc, List.singleton_append]
    obtain ⟨hresult, hwarnings⟩ := (generate_sameUpToEnd ha he he b report).eq
    exact ⟨hresult.symm, hwarnings.symm⟩
  · have hsupplied : generate a report = generate (a ++ [suppliedEnd a]) report := by
      simp only [generate, State.ofTokens, Cursor.ofTokens_suppliedEnd ha]
    rw [hsupplied]
    exact generate_sameUpToEnd ha (kind_suppliedEnd a) he [] report

/-- A branch that is not closed before the end of input. The brace is behind it. -/
theorem first_end_ends_input_unclosed :
    ∃ (a b : List Token) (e : Token) (d : Diagnostic),
      (∀ t ∈ a, t.kind ≠ .eof) ∧ e.kind = .eof ∧ b.map (·.kind) = [.rbrace] ∧
      (generate (a ++ [e] ++ b) (.ofSource "")).1 =
        .error (.fault (.unclosedBlock "if body") d e) ∧
      SameUpToEnd (.ofSource "") a (suppliedEnd a) e (generate a (.ofSource ""))
        (generate (a ++ [e]) (.ofSource "")) := by
  have ha : ∀ t ∈ (tokenize "if (1) \x7b cetak 2").dropLast, t.kind ≠ .eof := by decide +kernel
  have hresult : (generate ((tokenize "if (1) \x7b cetak 2").dropLast ++ [.eof ⟨90, 9, 1⟩])
      (.ofSource "")).1 = .error (.fault (.unclosedBlock "if body")
        ⟨"SYN001", "Expected '\x7d' to end if body", ⟨90, 9, 1⟩, "end of file", ""⟩
        (.eof ⟨90, 9, 1⟩)) := by
    decide +kernel
  obtain ⟨⟨hbehind, -⟩, hsupplied⟩ := first_end_ends_input (e := .eof ⟨90, 9, 1⟩) ha rfl
    [⟨.rbrace, "\x7d", ⟨91, 9, 2⟩⟩] (.ofSource "")
  exact ⟨_, _, _, _, ha, rfl, rfl, hbehind.trans hresult, hsupplied⟩

end StageZero
