import StageZero.Proofs.Growth
import StageZero.Proofs.Marks
import StageZero.Session

/-!
# Sessions only grow

A session compiles all of its lines again for every line that is accepted, and
shows what is new by dropping as much as it has shown before. That is right only
if what was shown before is the beginning of what is there now, and this file
says when it is: whenever the text of the session ended in a line break. A
session text does so unless a string literal has been left open in it.

What a session has shown is always what its accepted lines are compiled to; that
is the invariant of all steps. The rest is the growth of compilations.
-/

namespace StageZero

namespace Session

/-- The sessions that steps lead to. -/
inductive Reachable : Session → Prop where
  | start (debug : Bool) : Reachable { debug := debug }
  | step {s next : Session} {line output : String} (hs : Reachable s)
      (h : s.step line = .goOn next output) : Reachable next

/-- What a session has shown is what a compilation has. -/
structure HasShown (s : Session) (c : Compilation) : Prop where
  main : s.shownMain = c.main
  functions : s.shownFunctions = c.functions
  warnings : s.shownWarnings = c.warnings.length

/-- What a session has shown is what its accepted lines are compiled to. -/
def Settled (s : Session) : Prop :=
  ∃ debug c, (compile debug (sourceText s.accepted)).result = .ok c ∧ s.HasShown c

/-- Nothing has been accepted and nothing forgotten. -/
structure Keeps (s next : Session) : Prop where
  accepted : next.accepted = s.accepted
  shown : ∀ {c}, s.HasShown c → next.HasShown c

/-- All lines have been compiled with one more, and their news are printed. -/
structure Accepts (s : Session) (line : String) (c : Compilation) (next : Session)
    (output : String) : Prop where
  compiled : (compile s.debug (sourceText (s.accepted ++ s.pending ++ [line]))).result = .ok c
  next_eq : next = s.adopt (s.accepted ++ s.pending ++ [line]) c
  output_eq : output =
    (compile s.debug (sourceText (s.accepted ++ s.pending ++ [line]))).trace ++ s.news c

section

variable {s next : Session} {line output : String} {c : Compilation}

theorem keeps_of_shown (ha : next.accepted = s.accepted) (hm : next.shownMain = s.shownMain)
    (hf : next.shownFunctions = s.shownFunctions) (hw : next.shownWarnings = s.shownWarnings) :
    s.Keeps next :=
  ⟨ha, fun h => ⟨hm.trans h.main, hf.trans h.functions, hw.trans h.warnings⟩⟩

theorem code_cases (h : s.code line = .goOn next output) :
    s.Keeps next ∨ ∃ c, s.Accepts line c next output := by
  unfold code at h
  cases hr : (compile s.debug (sourceText (s.accepted ++ s.pending ++ [line]))).result with
  | ok c =>
      simp only [hr] at h
      cases h
      exact .inr ⟨c, hr, rfl, rfl⟩
  | error e =>
      refine .inl ?_
      cases e with
      | fault cause d tok =>
          simp only [hr] at h
          split at h
          · cases h
            exact keeps_of_shown rfl rfl rfl rfl
          · cases h
            exact keeps_of_shown rfl rfl rfl rfl
      | notBuiltin kind =>
          simp only [hr] at h
          cases h
          exact keeps_of_shown rfl rfl rfl rfl
      | noToken =>
          simp only [hr] at h
          cases h
          exact keeps_of_shown rfl rfl rfl rfl

/-- What a step can do: nothing is accepted, or all is forgotten, or the lines
are compiled and their news are printed. -/
theorem step_cases (h : s.step line = .goOn next output) :
    s.Keeps next ∨ (∃ debug, next = { debug := debug }) ∨ ∃ c, s.Accepts line c next output := by
  have hcode : s.code line = .goOn next output →
      s.Keeps next ∨ (∃ debug, next = { debug := debug }) ∨ ∃ c, s.Accepts line c next output :=
    fun hc => (code_cases hc).imp id Or.inr
  unfold step at h
  split at h
  · split at h
    · next command hcommand =>
        cases command with
        | quit => cases h
        | debugOn => cases h; exact .inl (keeps_of_shown rfl rfl rfl rfl)
        | debugOff => cases h; exact .inl (keeps_of_shown rfl rfl rfl rfl)
        | showProgram => cases h; exact .inl (keeps_of_shown rfl rfl rfl rfl)
        | reset => cases h; exact .inr (.inl ⟨_, rfl⟩)
        | nothing => cases h; exact .inl (keeps_of_shown rfl rfl rfl rfl)
    · exact hcode h
  · exact hcode h

theorem settled_start (debug : Bool) : Settled { debug := debug } := by
  have hp : ProgramAt nestingLimit (.ofTokens (tokenize "")) [] (.ofTokens (tokenize "")) := by
    rw [tokenize_empty]
    exact ⟨.refl _, rfl, trivial, Nat.zero_le _⟩
  obtain ⟨s, hrun, hw⟩ := Gen.run_ofTokens (.ofSource "") debug hp
  refine ⟨debug, .ofState (tokenize "") s, ?_, ?_, ?_, ?_⟩
  · show (compile debug "").result = _
    simp only [compile, hrun]
  · show "" = Text.concat s.output.main.toList
    rw [hw.main]
    rfl
  · show "" = Text.concat s.output.functions.toList
    rw [hw.functions]
    rfl
  · show 0 = s.report.warnings.toList.length
    rw [hw.report, Report.warnings_ofSource]
    rfl

/-- The invariant of a step. -/
theorem Settled.step (hs : s.Settled) (h : s.step line = .goOn next output) : next.Settled := by
  rcases step_cases h with hkeeps | ⟨debug, rfl⟩ | ⟨c, hc⟩
  · obtain ⟨debug, c, hcompiled, hshown⟩ := hs
    exact ⟨debug, c, by rw [hkeeps.accepted]; exact hcompiled, hkeeps.shown hshown⟩
  · exact settled_start debug
  · obtain rfl := hc.next_eq
    exact ⟨s.debug, c, hc.compiled, rfl, rfl, rfl⟩

theorem Reachable.settled (hs : s.Reachable) : s.Settled := by
  induction hs with
  | start debug => exact settled_start debug
  | step hs h ih => exact ih.step h

theorem sourceText_append (lines more : List String) :
    sourceText (lines ++ more) = sourceText lines ++ sourceText more := by
  rw [sourceText, List.map_append, Text.concat_append]
  rfl

/-- A line that lengthens the accepted lines has been compiled with them. -/
theorem accepts_of_accepted (h : s.step line = .goOn next output)
    (ha : next.accepted = s.accepted ++ s.pending ++ [line]) :
    ∃ c, s.Accepts line c next output := by
  rcases step_cases h with hkeeps | ⟨debug, rfl⟩ | hc
  · have hlen := congrArg List.length (hkeeps.accepted.symm.trans ha)
    simp only [List.length_append, List.length_singleton] at hlen
    omega
  · exact absurd ha.symm (List.append_ne_nil_of_right_ne_nil _ (List.cons_ne_nil _ _))
  · exact hc

end

end Session

theorem Text.append_drop {text more : String} (whole : String) (h : whole = text ++ more) :
    text ++ Text.drop text.length whole = whole := by
  subst h
  apply String.toList_inj.1
  rw [Text.drop, String.toList_append, String.toList_append, String.toList_ofList,
    ← String.length_toList, List.drop_left]

/-! ## What is displayed -/

/-- New text and how it is displayed: nothing if there is none, and otherwise the text
with a single line break in place of those at its end. -/
inductive Displays : String → String → Prop where
  | nothing : Displays "" ""
  | text {body : String} {breaks : Nat} (hlast : body.toList.getLast? ≠ some '\n')
      (hne : body ≠ "" ∨ breaks ≠ 0) :
      Displays (body ++ String.ofList (List.replicate breaks '\n')) (body ++ "\n")

theorem displays_shownText (text : String) : Displays text (Session.shownText text) := by
  unfold Session.shownText
  split
  · next h =>
      subst h
      exact .nothing
  · next h =>
      obtain ⟨breaks, htext, hlast⟩ := Text.dropEnd_append '\n' text
      have heq : text = Text.dropEnd '\n' text ++ String.ofList (List.replicate breaks '\n') := by
        apply String.toList_inj.1
        rw [String.toList_append, String.toList_ofList, ← htext]
      have hne : Text.dropEnd '\n' text ≠ "" ∨ breaks ≠ 0 := by
        by_contra hboth
        push Not at hboth
        rw [hboth.1, hboth.2] at heq
        exact h heq
      have hdisplays := Displays.text hlast hne
      rwa [← heq] at hdisplays

/-- The line in which a warning is displayed. -/
def warningLine (d : Diagnostic) : String :=
  "Warning: [" ++ d.code ++ "] line " ++ toString d.pos.line ++ ", col " ++
    toString d.pos.column ++ " (idx " ++ toString d.pos.index ++ "): " ++ d.message ++
    (if d.tokenValue = "" then "" else " '" ++ d.tokenValue ++ "'") ++ "\n"

theorem warningText_eq (d : Diagnostic) : d.warningText = warningLine d := by
  have hopening : "Warning: [" = "Warning: " ++ "[" := by decide
  have hline : "] line " = "] " ++ "line " := by decide
  have hindex : "): " = ")" ++ ": " := by decide
  unfold warningLine
  rw [hopening, hline, hindex]
  simp only [Diagnostic.warningText, Diagnostic.format, Position.text, String.append_assoc]

theorem trace_eq_empty (source : String) : (compile false source).trace = "" := by
  cases hrun : Gen.run nestingLimit (.ofTokens (tokenize source) (.ofSource source) false) with
  | ok u s => simp [compile, hrun]
  | error e s => simp [compile, hrun]

/-- Longer sources write more, and so sessions only grow. If a source is empty or
ends in a line break, all that it is compiled to is the beginning of what any
longer source is compiled to. And if the text of a session was of this kind when
a line is accepted, then what the session prints as new is just what is added to
what it had shown: the functions, the main body and the warnings. -/
theorem sessions_only_grow :
    (∀ (source more : String) (debug debug' : Bool) (a b : Compilation), LineEnded source →
      (compile debug source).result = .ok a → (compile debug' (source ++ more)).result = .ok b →
      b.Extends a) ∧
    ∀ (s next : Session) (line output : String), s.Reachable → s.step line = .goOn next output →
      next.accepted = s.accepted ++ s.pending ++ [line] →
      LineEnded (Session.sourceText s.accepted) →
      ∃ (debug : Bool) (old new : Compilation) (functions main : String)
          (warnings : List Diagnostic) (trace displayed displayed' : String),
        (compile debug (Session.sourceText s.accepted)).result = .ok old ∧ s.HasShown old ∧
        (compile s.debug (Session.sourceText next.accepted)).result = .ok new ∧
        next.HasShown new ∧
        s.shownFunctions ++ functions = next.shownFunctions ∧
        s.shownMain ++ main = next.shownMain ∧
        old.warnings ++ warnings = new.warnings ∧
        output = trace ++ displayed ++ displayed' ++ String.join (warnings.map warningLine) ∧
        Displays functions displayed ∧ Displays main displayed' ∧
        trace = (compile s.debug (Session.sourceText next.accepted)).trace ∧
        (s.debug = false → trace = "") := by
  have hgrow : ∀ (source more : String) (debug debug' : Bool) (a b : Compilation),
      LineEnded source → (compile debug source).result = .ok a →
      (compile debug' (source ++ more)).result = .ok b → b.Extends a :=
    fun _ _ _ _ _ _ h ha hb => h.compile_extends ha hb
  refine ⟨hgrow, ?_⟩
  intro s next line output hs hstep haccepted hend
  obtain ⟨debug, old, hold, hshown⟩ := hs.settled
  obtain ⟨new, hc⟩ := Session.accepts_of_accepted hstep haccepted
  have hnew := hc.compiled
  rw [List.append_assoc, Session.sourceText_append] at hnew
  have hextends := hgrow _ _ _ _ _ _ hend hold hnew
  obtain ⟨moreFunctions, hfunctions⟩ := hextends.functions
  obtain ⟨moreMain, hmain⟩ := hextends.main
  obtain ⟨moreWarnings, hwarnings⟩ := hextends.warnings
  refine ⟨debug, old, new, Text.drop s.shownFunctions.length new.functions,
    Text.drop s.shownMain.length new.main, new.warnings.drop s.shownWarnings, _, _, _, hold,
    hshown, ?_, ?_, ?_, ?_, ?_, ?_, displays_shownText _, displays_shownText _, rfl, ?_⟩
  · rw [haccepted]
    exact hc.compiled
  · rw [hc.next_eq]
    exact ⟨rfl, rfl, rfl⟩
  · rw [hc.next_eq]
    exact Text.append_drop _ (hshown.functions ▸ hfunctions)
  · rw [hc.next_eq]
    exact Text.append_drop _ (hshown.main ▸ hmain)
  · rw [hshown.warnings, ← hwarnings, List.drop_left]
  · have hlines : Text.concat ((new.warnings.drop s.shownWarnings).map Diagnostic.warningText) =
        String.join ((new.warnings.drop s.shownWarnings).map warningLine) := by
      rw [funext warningText_eq]
      rfl
    rw [haccepted, hc.output_eq, Session.news, hlines, String.append_assoc, String.append_assoc,
      String.append_assoc]
  · intro hquiet
    rw [hquiet]
    exact trace_eq_empty _

/-- The session a reply goes on with. -/
def Reply.next? : Reply → Option Session
  | .goOn next _ => some next
  | .leave _ => none

/-- What a reply prints. -/
def Reply.output : Reply → String
  | .goOn _ output => output
  | .leave output => output

/-- A line with a bare name, a function and a statement of the main body. -/
def mixedLine : String :=
  "x function f(a) \x7b print a \x7d print 3"

/-- A branch whose alternative comes only with the longer source, and a session with one
line that accepts another. -/
theorem sessions_only_grow_else :
    (∃ a b, (compile false "if (1) \x7b\n\x7d\n").result = .ok a ∧
      (compile true ("if (1) \x7b\n\x7d\n" ++ "else \x7b\n\x7d\n")).result = .ok b ∧
      b.Extends a) ∧
    ∃ (s next : Session), s.Reachable ∧ s.accepted = ["print 1"] ∧
      s.step mixedLine = .goOn next
        ("int f(char* a) \x7b\n    __wear_print_int(a);\n\x7d\n" ++
          "    __wear_print_int(3);\n" ++
          "Warning: [SYN006] line 2, col 1 (idx 8): " ++
          "Identifier used as a statement has no effect 'x'\n") ∧
      next.accepted = ["print 1", mixedLine] ∧
      ∃ functions main displayed displayed', s.shownFunctions ++ functions = next.shownFunctions ∧
        s.shownMain ++ main = next.shownMain ∧ Displays functions displayed ∧
        Displays main displayed' := by
  constructor
  · have hend : LineEnded "if (1) \x7b\n\x7d\n" := by
      refine .inr ⟨⟨.newline, "\\n", ⟨10, 2, 2⟩⟩, ?_, rfl⟩
      decide +kernel
    have hshort : (compile false "if (1) \x7b\n\x7d\n").result.isOk = true := by
      decide +kernel
    have hlong : (compile true
        ("if (1) \x7b\n\x7d\n" ++ "else \x7b\n\x7d\n")).result.isOk = true := by
      decide +kernel
    cases ha : (compile false "if (1) \x7b\n\x7d\n").result with
    | error e => rw [ha] at hshort; cases hshort
    | ok a =>
        cases hb : (compile true ("if (1) \x7b\n\x7d\n" ++ "else \x7b\n\x7d\n")).result with
        | error e => rw [hb] at hlong; cases hlong
        | ok b => exact ⟨a, b, rfl, rfl, sessions_only_grow.1 _ _ _ _ _ _ hend ha hb⟩
  · let fresh : Session := { debug := false }
    have hfirst : (fresh.step "print 1").next?.map (fun s => (s.accepted, s.pending)) =
        some (["print 1"], []) := by
      decide +kernel
    have hsecond : ((fresh.step "print 1").next?.bind fun s => (s.step mixedLine).next?).map
        (·.accepted) = some ["print 1", mixedLine] := by
      decide +kernel
    have houtput : (fresh.step "print 1").next?.map (fun s => (s.step mixedLine).output) =
        some ("int f(char* a) \x7b\n    __wear_print_int(a);\n\x7d\n" ++
          "    __wear_print_int(3);\n" ++
          "Warning: [SYN006] line 2, col 1 (idx 8): " ++
          "Identifier used as a statement has no effect 'x'\n") := by
      decide +kernel
    cases h₁ : fresh.step "print 1" with
    | leave output => rw [h₁] at hfirst; cases hfirst
    | goOn s output =>
        rw [h₁] at hfirst hsecond houtput
        obtain ⟨ha, hp⟩ : s.accepted = ["print 1"] ∧ s.pending = [] := by
          simpa [Reply.next?] using hfirst
        cases h₂ : s.step mixedLine with
        | leave output => simp [Reply.next?, h₂] at hsecond
        | goOn next output =>
            have hn : next.accepted = ["print 1", mixedLine] := by
              simpa [Reply.next?, h₂] using hsecond
            have ho := houtput
            rw [Reply.next?, Option.map_some, h₂] at ho
            have hs : s.Reachable := .step (.start false) h₁
            have hend : LineEnded (Session.sourceText s.accepted) := by
              rw [ha]
              refine .inr ⟨⟨.newline, "\\n", ⟨7, 1, 8⟩⟩, ?_, rfl⟩
              decide +kernel
            obtain ⟨_, old, new, functions, main, warnings, _, _, _, -, -, -, -, hf, hm, -, -, hdf,
                hdm, -⟩ :=
              sessions_only_grow.2 s next mixedLine output hs h₂ (by rw [hn, ha, hp]; rfl) hend
            exact ⟨s, next, hs, ha, congrArg (Reply.goOn next) (Option.some.inj ho) ▸ h₂, hn,
              functions, main, _, _, hf, hm, hdf, hdm⟩

end StageZero
