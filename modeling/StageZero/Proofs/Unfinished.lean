import Mathlib.Data.Nat.Find
import StageZero.Proofs.Parting
import StageZero.Proofs.Sessions
import StageZero.Proofs.Sources

/-!
# Unfinished sources

A session asks one question about a source that does not compile: can more lines
help? It looks at the token the fault is about and at nothing else, and this file
shows that this is enough, for sources that end in a line break.

A fault before the end of input is final. The generator has come to it by tokens
that are followed by a line break, and these are the same whatever is written
behind. A fault at the end of input is a block that lacks its brace and nothing
else, and there is a number of braces that makes the source whole. With fewer
braces the fault is at the end of input again.
-/

namespace StageZero

open StageZero.Tree

/-! ## Sources with a common beginning -/

namespace Cursor

theorem rest_next {c : Cursor} {t : Token} {ts : List Token} (h : c.rest = t :: ts)
    (hne : ts ≠ []) : c.next.rest = ts := by
  obtain ⟨c', hm, hc'⟩ := exists_moves (show c.rest = [t] ++ ts from h) hne
  rw [hm.next_eq, hc']

theorem rest_skipNewlines {c : Cursor} {lines ts : List Token} (h : c.rest = lines ++ ts)
    (hl : ∀ t ∈ lines, t.kind = .newline) (hne : ts ≠ []) (hk : nextKind ts ≠ .newline) :
    c.skipNewlines.rest = ts := by
  induction lines generalizing c with
  | nil =>
      rw [skipNewlines_of_ne, h, List.nil_append]
      rwa [← nextKind_rest, h, List.nil_append]
  | cons l lines ih =>
      have hhere : c.here.kind = .newline := by
        rw [(List.cons.inj h).1]
        exact hl l List.mem_cons_self
      rw [← skipNewlines_next hhere]
      refine ih (rest_next h ?_) fun t ht => hl t (List.mem_cons_of_mem l ht)
      exact List.append_ne_nil_of_right_ne_nil lines hne

theorem sealed_of_rest {c : Cursor} {ts us : List Token} {e : Token} (h : c.rest = ts ++ us)
    (hlast : us.getLast? = some e) (he : e.kind = .eof) : c.Sealed := by
  have : some c.last = some e := by
    rw [← getLast?_rest, h, List.getLast?_append, hlast]
    rfl
  rw [Sealed, Option.some.inj this]
  exact he

end Cursor

theorem Tree.EndsInLine.tail {t : Token} {ts : List Token} (h : EndsInLine (t :: ts))
    (hk : t.kind ≠ .newline) : EndsInLine ts := by
  refine EndsInLine.of_append (show EndsInLine ([t] ++ ts) from h) ?_
  rintro rfl
  obtain ⟨u, hu, hline⟩ := h
  cases hu
  exact hk hline

/-- The line breaks at the head of a list, and the rest. -/
theorem exists_lines (ts : List Token) : ∃ lines rest, ts = lines ++ rest ∧
    (∀ t ∈ lines, t.kind = .newline) ∧ (rest ≠ [] → nextKind rest ≠ .newline) := by
  induction ts with
  | nil => exact ⟨[], [], rfl, by simp, by simp⟩
  | cons t ts ih =>
      by_cases ht : t.kind = .newline
      · obtain ⟨lines, rest, rfl, hlines, hrest⟩ := ih
        exact ⟨t :: lines, rest, rfl, by simpa [ht] using hlines, hrest⟩
      · exact ⟨[], t :: ts, rfl, by simp, fun _ => ht⟩

/-- Two lists that begin alike. A place corresponds to the same place, as long as
a line break of the common beginning is still to come. -/
structure Beginning where
  report : Report
  report' : Report
  /-- What is common. -/
  front : List Token
  /-- The end of the first list. -/
  last : Token
  /-- How the second list goes on. -/
  more : List Token
  front_ne : ∀ t ∈ front, t.kind ≠ .eof
  last_eof : last.kind = .eof
  more_eof : ∃ e, more.getLast? = some e ∧ e.kind = .eof

namespace Beginning

variable (B : Beginning)

def Cursors (c c' : Cursor) : Prop :=
  ∃ ts, EndsInLine ts ∧ ts ⊆ B.front ∧ c.rest = ts ++ [B.last] ∧ c'.rest = ts ++ B.more

theorem more_ne_nil : B.more ≠ [] := by
  obtain ⟨e, he, -⟩ := B.more_eof
  rintro hnil
  rw [hnil] at he
  cases he

namespace Cursors

variable {B} {c c' : Cursor}

theorem exists_cons (h : B.Cursors c c') : ∃ t ts, EndsInLine (t :: ts) ∧ t :: ts ⊆ B.front ∧
    c.rest = t :: (ts ++ [B.last]) ∧ c'.rest = t :: (ts ++ B.more) := by
  obtain ⟨ts, hends, hfront, hc, hc'⟩ := h
  cases ts with
  | nil =>
      obtain ⟨t, ht, -⟩ := hends
      cases ht
  | cons t ts => exact ⟨t, ts, hends, hfront, hc, hc'⟩

theorem here (h : B.Cursors c c') : c.here = c'.here ∧ c.here ∈ B.front := by
  obtain ⟨t, ts, -, hfront, hc, hc'⟩ := h.exists_cons
  obtain ⟨rfl, -⟩ := List.cons.inj hc
  exact ⟨(List.cons.inj hc').1.symm, hfront List.mem_cons_self⟩

theorem next (h : B.Cursors c c') (hk : c.here.kind.endsLine = false) :
    B.Cursors c.next c'.next := by
  obtain ⟨t, ts, hends, hfront, hc, hc'⟩ := h.exists_cons
  obtain ⟨rfl, -⟩ := List.cons.inj hc
  have hne : c.here.kind ≠ .newline := by
    intro hline
    rw [hline] at hk
    cases hk
  refine ⟨ts, hends.tail hne, fun u hu => hfront (List.mem_cons_of_mem _ hu), ?_, ?_⟩
  · exact Cursor.rest_next hc (List.append_ne_nil_of_right_ne_nil ts (List.cons_ne_nil _ _))
  · exact Cursor.rest_next hc' (List.append_ne_nil_of_right_ne_nil ts B.more_ne_nil)

theorem isSealed (h : B.Cursors c c') : c.Sealed ∧ c'.Sealed := by
  obtain ⟨ts, -, -, hc, hc'⟩ := h
  obtain ⟨e, he, hk⟩ := B.more_eof
  exact ⟨Cursor.sealed_of_rest hc rfl B.last_eof, Cursor.sealed_of_rest hc' he hk⟩

theorem ahead (h : B.Cursors c c') :
    c'.ahead.length = c.ahead.length + (B.more.length - 1) := by
  obtain ⟨ts, -, -, hc, hc'⟩ := h
  have hlen := congrArg List.length hc
  have hlen' := congrArg List.length hc'
  have hpos := List.length_pos_iff.2 B.more_ne_nil
  simp only [Cursor.rest, List.length_cons, List.length_append] at hlen hlen'
  rw [List.length_nil] at hlen
  omega

/-- Behind line breaks there is a token of the beginning, or the first list is at
its end. -/
theorem skip (h : B.Cursors c c') : B.Cursors c.skipNewlines c'.skipNewlines ∨
    (Closers 0 c.skipNewlines.rest ∧
      ∀ k, Closers k B.more → Closers k c'.skipNewlines.rest) := by
  obtain ⟨ts, hends, hfront, hc, hc'⟩ := h
  obtain ⟨lines, rest, rfl, hlines, hrest⟩ := exists_lines ts
  rw [List.append_assoc] at hc hc'
  by_cases hnil : rest = []
  · -- only line breaks are left of the beginning
    subst hnil
    refine .inr ⟨?_, fun k hk => ?_⟩
    · rw [Cursor.rest_skipNewlines hc hlines (List.cons_ne_nil _ _)]
      · exact .eof B.last_eof
      · rw [List.nil_append, nextKind, B.last_eof]
        simp
    · rw [Cursor.rest_skipNewlines hc' hlines hk.ne_nil hk.nextKind_ne]
      exact hk
  · have hne := hrest hnil
    refine .inl ⟨rest, hends.of_append hnil, fun t ht => hfront (List.mem_append_right _ ht),
      ?_, ?_⟩
    · exact Cursor.rest_skipNewlines hc hlines (List.append_ne_nil_of_left_ne_nil hnil _)
        (by rwa [nextKind_append hnil])
    · exact Cursor.rest_skipNewlines hc' hlines (List.append_ne_nil_of_left_ne_nil hnil _)
        (by rwa [nextKind_append hnil])

end Cursors

/-- The pairing of each token of the beginning with itself. -/
def pairing : Pairing where
  exact := True
  report := B.report
  report' := B.report'
  Tokens t t' := t = t' ∧ t ∈ B.front
  Cursors := B.Cursors
  gap := B.more.length - 1
  kind h := congrArg Token.kind h.1
  value _ h _ := congrArg Token.value h.1
  here h := h.here
  next h := h.next
  isSealed h := h.isSealed.1
  isSealed' h := h.isSealed.2
  ahead h := h.ahead

def parting : Parting B.pairing where
  parts := True
  closers k := Closers k B.more
  skip h := h.skip.imp id fun hparted => ⟨trivial, hparted⟩

end Beginning

theorem ne_eof_of_mem_beforeEnd {tokens : List Token} :
    ∀ t ∈ beforeEnd tokens, t.kind ≠ .eof := by
  intro t ht
  simpa using List.all_eq_true.1 List.all_takeWhile t ht

theorem eq_of_failures {B : Beginning} (hd : ∀ t ∈ B.front, ∀ code message,
    B.report'.diagnose code message t = B.report.diagnose code message t) {e e' : Failure}
    (h : B.pairing.Failures e e') :
    e' = e ∧ ∃ cause d tok, e = .fault cause d tok ∧ tok.kind ≠ .eof := by
  cases h with
  | @fault cause cause' t t' hc ht =>
      obtain ⟨rfl, hfront⟩ : t = t' ∧ t ∈ B.front := ht
      obtain rfl : cause = cause' := by
        cases hc with
        | same => rfl
        | missingArguments h | unclosedWord h | missingFunction h => rw [h.tokens.1]
      refine ⟨?_, cause, _, t, rfl, B.front_ne t hfront⟩
      exact congrArg (Failure.fault cause · t) (hd t hfront _ _)

/-- What can be said of a source that ends in a line break, and of a longer one.
Both compile, or both fail with the same fault before the end of input, or the
source has come to its end and is at most in want of braces. -/
theorem run_append {source : String} (hends : EndsInLine (beforeEnd (tokenize source)))
    (more : String) :
    (∃ s s', Gen.run nestingLimit (.ofSource source) = .ok () s ∧
      Gen.run nestingLimit (.ofSource (source ++ more)) = .ok () s') ∨
    (∃ cause d tok s s', tok.kind ≠ .eof ∧
      Gen.run nestingLimit (.ofSource source) = .error (.fault cause d tok) s ∧
      Gen.run nestingLimit (.ofSource (source ++ more)) = .error (.fault cause d tok) s') ∨
    (Closing (fun _ _ => True) 0 nestingLimit (Gen.run nestingLimit (.ofSource source)) ∧
      ∀ k behind, tokenize (source ++ more) = beforeEnd (tokenize source) ++ behind →
        Closers k behind → Closing (fun _ _ => True) k nestingLimit
          (Gen.run nestingLimit (.ofSource (source ++ more)))) := by
  have hline : LineEnded source := .inr hends
  obtain ⟨e, he, htokens⟩ := tokenize_eq source
  obtain ⟨e', he', htokens'⟩ := tokenize_eq (source ++ more)
  obtain ⟨behind, hne, hbehind⟩ := hline.tokenize_append more
  have hlast : behind.getLast? = some e' := by
    have := congrArg List.getLast? (hbehind.symm.trans htokens')
    rwa [List.getLast?_append, List.getLast?_concat, List.getLast?_eq_some_getLast hne,
      Option.some_or, ← List.getLast?_eq_some_getLast hne] at this
  let B : Beginning := {
    report := .ofSource source
    report' := .ofSource (source ++ more)
    front := beforeEnd (tokenize source)
    last := e
    more := behind
    front_ne := ne_eof_of_mem_beforeEnd
    last_eof := he
    more_eof := ⟨e', hlast, he'⟩ }
  have hstart : B.pairing.States (.ofSource source) (.ofSource (source ++ more)) := by
    refine .start ⟨beforeEnd (tokenize source), hends, List.Subset.refl _, ?_, ?_⟩
    · exact (rest_tokenize source).trans htokens
    · exact (rest_tokenize (source ++ more)).trans hbehind
  rcases Gen.course_run B.parting (show 0 < nestingLimit by decide) hstart with
    hagree | ⟨-, hend, hend'⟩
  · cases hrun : Gen.run nestingLimit (.ofSource source) with
    | ok _ s =>
        rw [hrun] at hagree
        obtain ⟨_, s', hrun', -, -⟩ := hagree.of_ok
        exact .inl ⟨s, s', rfl, hrun'⟩
    | error e s =>
        rw [hrun] at hagree
        obtain ⟨e', s', hrun', hfailure, -⟩ := hagree.of_error
        obtain ⟨rfl, cause, d, tok, rfl, hk⟩ :=
          eq_of_failures (fun t ht => hline.diagnose_append more ht) hfailure
        exact .inr (.inl ⟨cause, d, tok, s, s', hk, rfl, hrun'⟩)
  · refine .inr (.inr ⟨hend, fun k rest hrest hk => hend' k ?_⟩)
    obtain rfl : rest = behind := List.append_cancel_left (hrest.symm.trans hbehind)
    exact hk

/-! ## Lines that close blocks -/

/-- So many lines with nothing but a closing brace. -/
def closingLines (k : Nat) : String :=
  Text.concat (List.replicate k "\x7d\n")

theorem toList_closingLines (k : Nat) :
    (closingLines (k + 1)).toList = '\x7d' :: '\n' :: (closingLines k).toList := by
  have h : closingLines (k + 1) = "\x7d\n" ++ closingLines k :=
    Text.concat_append ["\x7d\n"] (List.replicate k "\x7d\n")
  rw [h, String.toList_append]
  rfl

theorem closers_closingLines (pos : Position) (k : Nat) :
    Closers k (placeTokens pos (lexemes (closingLines k).toList)) := by
  induction k generalizing pos with
  | zero =>
      rw [show (closingLines 0).toList = [] from rfl, lexemes]
      exact .eof rfl
  | succ k ih =>
      have hpair : symbolKind? ['\x7d', '\n'] = none := by decide +kernel
      have hsingle : symbolKind? ['\x7d'] = some .rbrace := by decide +kernel
      have hbrace : ∀ text, Lexeme.split '\x7d' ('\n' :: text) =
          (.symbol ['\x7d'] .rbrace, '\n' :: text) := by
        intro text
        simp [Lexeme.split, Lexeme.isSpace, Lexeme.startsWord, Lexeme.splitSymbol, hpair, hsingle]
      rw [toList_closingLines, lexemes, hbrace, lexemes]
      exact .brace rfl rfl (ih _)

/-- Behind a line break the lexemes are found as if nothing were before it. -/
theorem lexemes_append {text : List Char} (h : (lexemes text).getLast? = some .newline)
    (more : List Char) : lexemes (text ++ more) = lexemes text ++ lexemes more := by
  fun_induction lexemes text with
  | case1 => cases h
  | case2 c text ih =>
      by_cases hstop : (Lexeme.split c text).2 = []
      · rw [hstop, lexemes] at h
        have hl : (Lexeme.split c text).1 = .newline := Option.some.inj h
        obtain rfl : c = '\n' := Lexeme.eq_newline (by rw [hl]; rfl)
        obtain rfl : text = [] := hstop
        simp [lexemes, Lexeme.split]
      · have hne : lexemes (Lexeme.split c text).2 ≠ [] := by
          obtain ⟨d, rest, hrest⟩ := List.exists_cons_of_ne_nil hstop
          rw [hrest, lexemes]
          exact List.cons_ne_nil _ _
        rw [List.getLast?_cons_of_ne_nil hne] at h
        rw [List.cons_append, lexemes, Lexeme.split_append hstop, ih h, List.cons_append]

theorem placeTokens_append_lexemes {pos : Position} {ls : List Lexeme} {ts : List Token} {e : Token}
    (h : placeTokens pos ls = ts ++ [e]) (more : List Lexeme) :
    ∃ pos', placeTokens pos (ls ++ more) = ts ++ placeTokens pos' more := by
  obtain ⟨us, hus⟩ := exists_placeTokens pos ls
  have hend := hus []
  rw [List.append_nil, h] at hend
  rw [(List.append_inj' hend rfl).1]
  exact ⟨_, hus more⟩

section

variable {source : String} (hnl : (lexemes source.toList).getLast? = some .newline)

include hnl

theorem endsInLine_of_newline : EndsInLine (beforeEnd (tokenize source)) := by
  obtain ⟨ls, hls⟩ := List.getLast?_eq_some_iff.1 hnl
  obtain ⟨ts, e, hts⟩ : ∃ ts e, placeTokens .start ls = ts ++ [e] :=
    ⟨_, _, (List.dropLast_append_getLast (placeTokens_ne_nil _ _)).symm⟩
  obtain ⟨pos, happend⟩ := placeTokens_append_lexemes hts [.newline]
  obtain ⟨e', -, htokens⟩ := tokenize_eq source
  obtain ⟨e'', htokens'⟩ : ∃ e'', tokenize source = ts ++ [⟨.newline, "\\n", pos⟩] ++ [e''] := by
    refine ⟨.eof (pos.after ['\n']), ?_⟩
    rw [tokenize, hls, happend, List.append_assoc]
    rfl
  rw [htokens] at htokens'
  rw [(List.append_inj' htokens' rfl).1]
  exact ⟨_, List.getLast?_concat, rfl⟩

/-- Lines with closing braces behind a line break are closing braces behind its
tokens. -/
theorem tokenize_closingLines (k : Nat) :
    ∃ behind, tokenize (source ++ closingLines k) = beforeEnd (tokenize source) ++ behind ∧
      Closers k behind := by
  obtain ⟨e, -, htokens⟩ := tokenize_eq source
  obtain ⟨pos, happend⟩ := placeTokens_append_lexemes htokens (lexemes (closingLines k).toList)
  refine ⟨_, ?_, closers_closingLines pos k⟩
  rw [tokenize, String.toList_append, lexemes_append hnl]
  exact happend

end

/-! ## Faults and the end of input -/

theorem Closing.cases {Q : Nat → State → Prop} {k b : Nat}
    {r : EStateM.Result Failure State Unit} (h : Closing Q k b r) : (∃ s, r = .ok () s) ∨
      (k < b ∧ ∃ place ∈ blockPlaces, ∃ d tok s, d.message = (Fault.unclosedBlock place).message ∧
        tok.kind = .eof ∧ r = .error (.fault (.unclosedBlock place) d tok) s) := by
  cases h with
  | @ok j s hq hk => exact .inl ⟨s, rfl⟩
  | lacks he hk s =>
      cases he with
      | @fault place hp d hd tok htok =>
          exact .inr ⟨hk, place, hp, d, tok, s, hd, htok, rfl⟩

section

variable {source : String} {debug : Bool} {cause : Fault} {d : Diagnostic} {tok : Token}

/-- A fault before the end of input is final. In a source that ends in a line
break it is the same whatever is written behind, so that lines that are discarded
because of it could not have been completed. -/
theorem early_fault_is_final (hends : EndsInLine (beforeEnd (tokenize source)))
    (h : (compile debug source).result = .error (.fault cause d tok)) (hk : tok.kind ≠ .eof)
    (debug' : Bool) :
    (∀ more, (compile debug' (source ++ more)).result = .error (.fault cause d tok)) ∧
      ∀ lines later, Session.sourceText lines = source →
        (compile debug' (Session.sourceText (lines ++ later))).result =
          .error (.fault cause d tok) := by
  have hmore : ∀ more, (compile debug' (source ++ more)).result = .error (.fault cause d tok) := by
    intro more
    rcases run_append hends more with ⟨s, s', hrun, -⟩ |
      ⟨cause', d', tok', s, s', -, hrun, hrun'⟩ | ⟨hclosing, -⟩
    · rw [compile_of_ok hrun] at h
      cases h
    · rw [compile_of_error hrun] at h
      rw [compile_of_error hrun', ← h]
    · -- a source that lacks a brace fails at its end
      rcases hclosing.cases with ⟨s, hrun⟩ | ⟨-, place, -, d', tok', s, -, htok, hrun⟩
      · rw [compile_of_ok hrun] at h
        cases h
      · rw [compile_of_error hrun] at h
        cases h
        exact absurd htok hk
  refine ⟨hmore, ?_⟩
  rintro lines later rfl
  rw [Session.sourceText_append]
  exact hmore _

/-- A variable without a name, before a branch that is not closed. -/
theorem early_fault_is_final_nameless :
    ∃ d tok, tok.kind ≠ .eof ∧
      (compile false "var = 1\nif (1) \x7b\n").result = .error (.fault .missingVariable d tok) ∧
      (compile true ("var = 1\nif (1) \x7b\n" ++ "\x7d \"")).result =
        .error (.fault .missingVariable d tok) := by
  have hends : EndsInLine (beforeEnd (tokenize "var = 1\nif (1) \x7b\n")) :=
    ⟨⟨.newline, "\\n", ⟨16, 2, 9⟩⟩, by decide +kernel, rfl⟩
  have h : (compile false "var = 1\nif (1) \x7b\n").result =
      .error (.fault .missingVariable ⟨"SYN001", "Expected variable name after 'var'", ⟨4, 1, 5⟩,
        "=", "var = 1"⟩ ⟨.equal, "=", ⟨4, 1, 5⟩⟩) := by
    decide +kernel
  exact ⟨_, _, by decide, h, (early_fault_is_final hends h (by decide) true).1 _⟩

/-- Behind a source that fails at its end, closing lines make it compile or leave
it in want of more. -/
theorem closing_of_fault_at_end (hnl : (lexemes source.toList).getLast? = some .newline)
    (h : (compile debug source).result = .error (.fault cause d tok)) (hk : tok.kind = .eof)
    (k : Nat) : Closing (fun _ _ => True) k nestingLimit
      (Gen.run nestingLimit (.ofSource (source ++ closingLines k))) := by
  rcases run_append (endsInLine_of_newline hnl) (closingLines k) with ⟨s, s', hrun, -⟩ |
    ⟨cause', d', tok', s, s', hk', hrun, -⟩ | ⟨-, hclosing⟩
  · rw [compile_of_ok hrun] at h
    cases h
  · rw [compile_of_error hrun] at h
    cases h
    exact absurd hk hk'
  · obtain ⟨behind, hbehind, hclosers⟩ := tokenize_closingLines hnl k
    exact hclosing k behind hbehind hclosers

/-- A fault at the end of input is a block that lacks its closing brace. There is
a number of lines with closing braces that make the source whole, and with fewer
of them the fault is at the end of input again. -/
theorem fault_at_end_is_unfinished (hnl : (lexemes source.toList).getLast? = some .newline)
    (h : (compile debug source).result = .error (.fault cause d tok)) (hk : tok.kind = .eof) :
    (∃ place ∈ blockPlaces, cause = .unclosedBlock place ∧
      d.message = "Expected '\x7d' to end " ++ place) ∧
    ∃ n, 1 ≤ n ∧ (∀ debug', ∃ a, (compile debug' (source ++ closingLines n)).result = .ok a) ∧
      ∀ k < n, ∀ debug', ∃ cause' d' tok', tok'.kind = .eof ∧
        (compile debug' (source ++ closingLines k)).result = .error (.fault cause' d' tok') := by
  have hclosing := fun k => (closing_of_fault_at_end hnl h hk k).cases
  have hzero : source ++ closingLines 0 = source := String.append_empty
  constructor
  · have hnone := hclosing 0
    rw [hzero] at hnone
    rcases hnone with ⟨s, hrun⟩ | ⟨-, place, hp, d', tok', s, hd, -, hrun⟩
    · rw [compile_of_ok hrun] at h
      cases h
    · rw [compile_of_error hrun] at h
      cases h
      exact ⟨place, hp, rfl, hd⟩
  · -- there are never more blocks open than may be nested
    have hwhole : ∃ n, ∃ s,
        Gen.run nestingLimit (.ofSource (source ++ closingLines n)) = .ok () s := by
      refine ⟨nestingLimit, ?_⟩
      rcases hclosing nestingLimit with hok | ⟨hlt, -⟩
      · exact hok
      · exact absurd hlt (Nat.lt_irrefl _)
    classical
    obtain ⟨s, hs⟩ := Nat.find_spec hwhole
    refine ⟨Nat.find hwhole, ?_, fun debug' => ⟨_, compile_of_ok hs debug'⟩, ?_⟩
    · rw [Nat.one_le_iff_ne_zero]
      intro hn
      rw [hn, hzero] at hs
      rw [compile_of_ok hs] at h
      cases h
    · intro k hlt debug'
      rcases hclosing k with hok | ⟨-, place, -, d', tok', s, -, htok, hrun⟩
      · exact absurd hok (Nat.find_min hwhole hlt)
      · exact ⟨_, d', tok', htok, compile_of_error hrun debug'⟩

/-- A loop in the alternative of a branch, in a function. -/
theorem fault_at_end_is_unfinished_nested :
    ∃ source d tok, (lexemes source.toList).getLast? = some .newline ∧ tok.kind = .eof ∧
      (compile false source).result = .error (.fault (.unclosedBlock "while body") d tok) ∧
      ∃ n, 1 ≤ n ∧ ∃ a, (compile true (source ++ closingLines n)).result = .ok a := by
  have h : (compile false
      "function f() \x7b\nif (1) \x7b\n\x7d else \x7b\nwhile (x) \x7b\n").result =
      .error (.fault (.unclosedBlock "while body") ⟨"SYN001", "Expected '\x7d' to end while body",
        ⟨45, 5, 1⟩, "end of file", ""⟩ ⟨.eof, "", ⟨45, 5, 1⟩⟩) := by
    decide +kernel
  have hnl : (lexemes
      "function f() \x7b\nif (1) \x7b\n\x7d else \x7b\nwhile (x) \x7b\n".toList).getLast? =
      some .newline := by
    decide +kernel
  obtain ⟨-, n, hn, hok, -⟩ := fault_at_end_is_unfinished hnl h rfl
  exact ⟨_, _, _, hnl, rfl, h, n, hn, hok true⟩

end

end StageZero
