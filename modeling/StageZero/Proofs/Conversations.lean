import StageZero.Proofs.Respelling
import StageZero.Proofs.Sessions

/-!
# What a session remembers

Seven things are kept in a session and there are six things that can become of a
line, and after each of them the seven must fit together again. They do because
they are all decided by the past: the chunks of lines that were accepted since
all was last forgotten, and the lines that wait. A past is a machine of its own,
much smaller than a session. It says what becomes of a line and nothing of what
is shown.

A session follows its past. Its accepted lines are the chunks, one behind the
other, and they compile; what it has shown and what it would show is what they
compile to. If lines wait, then all lines together fail at the end of input.
-/

namespace StageZero

open StageZero.Tree

/-! ## The past of a session -/

/-- What the lines so far have come to. -/
structure Past where
  /-- Lines that were accepted together, since all was last forgotten. -/
  chunks : List (List String) := []
  /-- Lines that wait. -/
  waiting : List String := []
  deriving DecidableEq

namespace Past

def text (p : Past) (line : String) : String :=
  Session.sourceText (p.chunks.flatten ++ p.waiting ++ [line])

/-- What becomes of a line of code. -/
def code (p : Past) (line : String) : Past :=
  match (compile false (p.text line)).result with
  | .ok _ => ⟨p.chunks ++ [p.waiting ++ [line]], []⟩
  | .error (.fault _ _ tok) =>
    if tok.kind = .eof then ⟨p.chunks, p.waiting ++ [line]⟩ else ⟨p.chunks, []⟩
  | .error _ => ⟨p.chunks, []⟩

/-- What becomes of a line. A line is a command only if none waits. -/
def next? (p : Past) (line : String) : Option Past :=
  match if p.waiting = [] then Command.ofLine? line else none with
  | some .quit => none
  | some .reset => some {}
  | some _ => some p
  | none => some (p.code line)

/-- What several lines come to, if the session does not end among them. -/
def after (lines : List String) : Option Past :=
  lines.foldlM next? {}

end Past

namespace Session

/-- The session behind several lines, if it does not end among them. -/
def after (s : Session) (lines : List String) : Option Session :=
  lines.foldlM (fun s line => (s.step line).next?) s

/-- A session is as its past has it. -/
structure Follows (s : Session) (past : Past) : Prop where
  accepted : s.accepted = past.chunks.flatten
  pending : s.pending = past.waiting
  compiled : ∀ debug, ∃ c, (compile debug (sourceText s.accepted)).result = .ok c ∧
    s.document = c.document ∧ s.shownMain = c.main ∧ s.shownFunctions = c.functions ∧
    s.shownWarnings = c.warnings.length
  waits : s.pending ≠ [] → ∀ debug, ∃ cause d tok,
    (compile debug (sourceText (s.accepted ++ s.pending))).result = .error (.fault cause d tok) ∧
      tok.kind = .eof

variable {s next : Session} {past : Past} {line : String}

/-- Whatever stops a compilation is a fault at a token. -/
theorem exists_fault_of_error {debug : Bool} {source : String} {e : Failure}
    (h : (compile debug source).result = .error e) : ∃ cause d tok, e = .fault cause d tok := by
  have hfault : ∀ {r}, SameResult source source (.error e) r →
      ∃ cause d tok, e = .fault cause d tok := by
    intro r hsame
    cases hsame with
    | error hplace => exact ⟨_, _, _, rfl⟩
  -- a source is alike to itself, and nothing but faults is compared
  refine hfault (h ▸ compile_alike ?_ debug debug)
  exact List.forall₂_same.2 fun t _ => ⟨rfl, fun _ => rfl⟩

/-- What a line of code can do to a session. -/
inductive Codes (s : Session) (line : String) : Reply → Prop where
  | accepted {c : Compilation} {output : String}
      (hr : (compile s.debug (sourceText (s.accepted ++ s.pending ++ [line]))).result = .ok c) :
      Codes s line (.goOn (s.adopt (s.accepted ++ s.pending ++ [line]) c) output)
  | kept {cause : Fault} {d : Diagnostic} {tok : Token} {output : String}
      (hr : (compile s.debug (sourceText (s.accepted ++ s.pending ++ [line]))).result =
        .error (.fault cause d tok)) (heof : tok.kind = .eof) :
      Codes s line (.goOn { s with pending := s.pending ++ [line] } output)
  | rejected {cause : Fault} {d : Diagnostic} {tok : Token} {output : String}
      (hr : (compile s.debug (sourceText (s.accepted ++ s.pending ++ [line]))).result =
        .error (.fault cause d tok)) (heof : tok.kind ≠ .eof) :
      Codes s line (.goOn { s with pending := [] } output)

theorem codes_code (s : Session) (line : String) : s.Codes line (s.code line) := by
  unfold code
  cases hr : (compile s.debug (sourceText (s.accepted ++ s.pending ++ [line]))).result with
  | ok c =>
      simp only [hr]
      exact .accepted hr
  | error e =>
      obtain ⟨cause, d, tok, rfl⟩ := exists_fault_of_error hr
      simp only [hr]
      split
      · next heof => exact .kept hr heof
      · next heof => exact .rejected hr heof

theorem follows_start (debug : Bool) : Follows { debug := debug } {} := by
  have hrun : Gen.run nestingLimit (.ofSource "") = .ok () (.ofSource "") := by
    refine (bind_ok Gen.remaining_eq).trans (Gen.loop_of_eof ?_ _)
    show (Cursor.ofTokens (tokenize "")).here.kind = .eof
    rw [tokenize_empty]
    rfl
  refine ⟨rfl, rfl, fun debug => ⟨_, compile_of_ok hrun debug, rfl, rfl, rfl, rfl⟩, ?_⟩
  exact fun h => absurd rfl h

theorem Follows.text (h : s.Follows past) (line : String) :
    sourceText (s.accepted ++ s.pending ++ [line]) = past.text line := by
  rw [h.accepted, h.pending]
  rfl

theorem Follows.code (h : s.Follows past) (hnext : (s.code line).next? = some next) :
    next.Follows (past.code line) := by
  have htext := h.text line
  unfold Past.code
  rw [compile_result_eq (past.text line) false s.debug, ← htext]
  generalize hreply : s.code line = reply at hnext
  cases hreply ▸ s.codes_code line with
  | @accepted c output hr =>
      cases hnext
      rw [hr]
      refine ⟨?_, rfl, fun debug => ⟨c, ?_, rfl, rfl, rfl, rfl⟩, fun hne => absurd rfl hne⟩
      · show s.accepted ++ s.pending ++ [line] = (past.chunks ++ [past.waiting ++ [line]]).flatten
        rw [h.accepted, h.pending, List.flatten_append, List.flatten_singleton, List.append_assoc]
      · exact (compile_result_eq _ debug s.debug).trans hr
  | @kept cause d tok output hr heof =>
      cases hnext
      simp only [hr, if_pos heof]
      refine ⟨h.accepted, congrArg (· ++ [line]) h.pending, h.compiled, fun _ debug => ?_⟩
      refine ⟨cause, d, tok, ?_, heof⟩
      show (compile debug (sourceText (s.accepted ++ (s.pending ++ [line])))).result = _
      rw [← List.append_assoc, compile_result_eq _ debug s.debug, hr]
  | @rejected cause d tok output hr heof =>
      cases hnext
      simp only [hr, if_neg heof]
      exact ⟨h.accepted, rfl, h.compiled, fun hne => absurd rfl hne⟩

/-- A line takes a session where it takes its past. -/
theorem Follows.step (h : s.Follows past) (hnext : (s.step line).next? = some next) :
    ∃ past', past.next? line = some past' ∧ next.Follows past' := by
  unfold Session.step at hnext
  unfold Past.next?
  by_cases hwait : s.pending = []
  · rw [if_pos (h.pending.symm.trans hwait)]
    rw [hwait] at hnext
    cases hcommand : Command.ofLine? line with
    | none =>
        simp only [hcommand] at hnext
        exact ⟨_, rfl, h.code hnext⟩
    | some command =>
        simp only [hcommand] at hnext
        cases command with
        | quit => cases hnext
        | debugOn | debugOff | showProgram | nothing =>
            cases hnext
            exact ⟨past, rfl, h.accepted, h.pending, h.compiled, h.waits⟩
        | reset =>
            cases hnext
            exact ⟨{}, rfl, follows_start s.debug⟩
  · rw [if_neg (fun hnil => hwait (h.pending.trans hnil))]
    have hempty : s.pending.isEmpty = false := by simpa using hwait
    rw [hempty] at hnext
    exact ⟨_, rfl, h.code hnext⟩

theorem Follows.after (h : s.Follows past) {lines : List String}
    (hnext : s.after lines = some next) :
    ∃ past', lines.foldlM Past.next? past = some past' ∧ next.Follows past' := by
  induction lines generalizing s past with
  | nil =>
      cases hnext
      exact ⟨past, rfl, h⟩
  | cons line lines ih =>
      unfold Session.after at hnext
      rw [List.foldlM_cons] at hnext
      obtain ⟨mid, hmid, hrest⟩ := Option.bind_eq_some_iff.1 hnext
      obtain ⟨past', hpast, hfollows⟩ := h.step hmid
      obtain ⟨past'', hpast', hlast⟩ := ih hfollows hrest
      refine ⟨past'', ?_, hlast⟩
      rw [List.foldlM_cons, hpast]
      exact hpast'

/-! ## Turns -/

/-- A line is asked for by the session behind the lines before it. -/
theorem exists_after_of_turn {printed : String} {lines : List String} {i : Nat} {turn : Turn}
    (h : (s.converse printed lines).turns[i]? = some turn) :
    ∃ t, s.after (lines.take i) = some t ∧ turn.prompt = t.prompt := by
  induction lines generalizing s printed i with
  | nil =>
      cases i with
      | zero =>
          cases h
          exact ⟨s, rfl, rfl⟩
      | succ i => simp [converse] at h
  | cons line lines ih =>
      unfold converse at h
      cases i with
      | zero =>
          have hturn : turn.prompt = s.prompt := by
            split at h <;> · cases h; rfl
          exact ⟨s, rfl, hturn⟩
      | succ i =>
          cases hstep : s.step line with
          | leave output => simp [hstep] at h
          | goOn next output =>
              simp only [hstep, List.getElem?_cons_succ] at h
              obtain ⟨t, ht, hprompt⟩ := ih h
              refine ⟨t, ?_, hprompt⟩
              show (line :: lines.take i).foldlM _ s = some t
              rw [List.foldlM_cons, hstep]
              exact ht

theorem sourceText_cons (line : String) (lines : List String) :
    sourceText (line :: lines) = Text.joinWith "\n" (line :: lines) ++ "\n" := by
  have hcons : ∀ line lines, sourceText (line :: lines) = line ++ "\n" ++ sourceText lines := by
    intro line lines
    exact (sourceText_append [line] lines).trans (by simp [sourceText, Text.concat])
  induction lines generalizing line with
  | nil =>
      rw [hcons, show sourceText [] = "" from rfl, String.append_empty]
      rfl
  | cons next lines ih =>
      rw [hcons, ih, ← String.append_assoc]
      rfl

theorem codes_step (h : s.pending = [] → Command.ofLine? line = none) :
    s.Codes line (s.step line) := by
  unfold step
  split
  · next hempty =>
      rw [h (by simpa using hempty)]
      exact s.codes_code line
  · exact s.codes_code line

end Session

/-- Whenever a session asks for a line, it is what its past says. The accepted
lines are the chunks accepted since all was last forgotten. They compile, and
what is kept and shown is what they compile to. If lines wait, all lines together
fail at the end of input. A line that is no command, or that comes while lines
wait, is accepted with them, waits with them, or is rejected with them and leaves
all else as it was. Whether there is a trace changes nothing of this. -/
theorem sessions_follow_their_past (debug : Bool) (lines : List String) (i : Nat) (turn : Turn)
    (h : (Session.transcript debug lines).turns[i]? = some turn) :
    ∃ (s : Session) (past : Past), Session.after { debug := debug } (lines.take i) = some s ∧
      turn.prompt = s.prompt ∧ Past.after (lines.take i) = some past ∧ s.Follows past ∧
      (∀ line, (s.pending = [] → Command.ofLine? line = none) → s.Codes line (s.step line)) ∧
      (∀ line on, s.pending = [] →
        Command.ofLine? line = some (if on then .debugOn else .debugOff) →
        ∃ output, s.step line = .goOn { s with debug := on } output) ∧
      Session.sourceText [] = "" ∧
      ∀ l ls, Session.sourceText (l :: ls) = Text.joinWith "\n" (l :: ls) ++ "\n" := by
  obtain ⟨s, hs, hprompt⟩ := Session.exists_after_of_turn h
  obtain ⟨past, hpast, hfollows⟩ := (Session.follows_start debug).after hs
  refine ⟨s, past, hs, hprompt, hpast, hfollows, fun line => Session.codes_step, ?_, rfl,
    Session.sourceText_cons⟩
  intro line on hempty hcommand
  unfold Session.step
  rw [if_pos (by rw [hempty]; rfl), hcommand]
  cases on with
  | true => exact ⟨_, rfl⟩
  | false => exact ⟨_, rfl⟩

/-- A word that would end the session is a line of code while a block is open, and a
command where nothing waits. -/
theorem sessions_follow_their_past_open :
    (∃ (s : Session) (past : Past),
      Session.after { debug := false } ["x", "if (x) \x7b", "quit"] = some s ∧
      s.prompt = "...> " ∧ Past.after ["x", "if (x) \x7b", "quit"] = some past ∧
      past = ⟨[["x"]], ["if (x) \x7b", "quit"]⟩ ∧ s.Follows past) ∧
      Past.after ["x", "reset", "debug on", "y"] = some ⟨[["y"]], []⟩ ∧
      Past.after ["x", "quit"] = none := by
  have hturn : (Session.transcript false ["x", "if (x) \x7b", "quit"]).turns[3]? =
      some ⟨"", "...> "⟩ := by
    decide +kernel
  have hwaits : Past.after ["x", "if (x) \x7b", "quit"] =
      some ⟨[["x"]], ["if (x) \x7b", "quit"]⟩ := by
    decide +kernel
  obtain ⟨s, past, hs, hprompt, hpast, hfollows, -⟩ := sessions_follow_their_past _ _ _ _ hturn
  have heq : past = ⟨[["x"]], ["if (x) \x7b", "quit"]⟩ :=
    Option.some.inj (hpast.symm.trans hwaits)
  exact ⟨⟨s, past, hs, hprompt.symm, hpast, heq, hfollows⟩, by decide +kernel, by decide +kernel⟩

end StageZero
