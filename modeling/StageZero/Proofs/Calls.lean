import StageZero.Proofs.Listing
import StageZero.Proofs.Nesting
import StageZero.Proofs.Terms

/-!
# Calls of the support library

A step of a program writes a line, and in it stands one term at most. The calls in these
terms are all the calls that the translation adds to a source: of the builtins, of what
prints, of what writes a file, and of what puts values together. They fit their
signatures. The commas are what counts the arguments, so an argument is there even where
the source has nothing between two of them; it is then written as nothing.
-/

namespace StageZero

namespace Tree

/-- A line of C around a term. -/
structure Writing where
  head : String
  term : Term
  tail : String

def Writing.text (w : Writing) : String :=
  w.head ++ w.term.code ++ w.tail

/-- What a statement without a block writes, if it writes anything. -/
def Stmt.writing? (types : TypeTable) : Stmt → Option Writing
  | .declare _ name _ value =>
    let kind := Gen.variableKind (value.fragment types)
    some ⟨Gen.variableType kind ++ " " ++ name.value ++ " = ", value.term types, ";"⟩
  | .print _ value =>
    some ⟨"", .call (Gen.printRoutine (value.fragment types).kind) [value.term types], ";"⟩
  | .give _ value =>
    if value.code types = "" then some ⟨"return", .row [], ";"⟩
    else some ⟨"return ", value.term types, ";"⟩
  | .writeFile _ _ name _ content _ =>
    some ⟨"", .call Support.writeFile [name.term types, content.term types], ";"⟩
  | .readFile _ _ name _ => some ⟨"", .call Support.readFile [name.term types], ";"⟩
  | .assign name _ value => some ⟨name.value ++ " = ", value.term types, ";"⟩
  | .call name _ args _ => some ⟨"", .user name.value (args.terms types), ";"⟩
  | _ => none

/-- What is written at a step, if anything is. -/
def Entry.writing? (e : Entry) : Option Writing :=
  match e.step with
  | .simple s _ => s.writing? e.types
  | .opening word test => some ⟨word ++ " (", test.value.term e.types, ") \x7b"⟩
  | .otherwise => some ⟨"else \x7b", .row [], ""⟩
  | .closing => some ⟨"\x7d", .row [], ""⟩

/-- The line of a writing at a depth, if there is one. -/
def Writing.lines (indent : Nat) (w? : Option Writing) : List String :=
  w?.toList.map fun w => BodyLine.margin indent ++ w.text ++ "\n"

theorem Stmt.lines_eq (types : TypeTable) (indent : Nat) {s : Stmt} (hs : s.isSimple = true) :
    (s.emission types indent).lines = Writing.lines indent (s.writing? types) := by
  cases s with
  | loop | branch | function => cases hs
  | idle name => rfl
  | skipped tok h =>
      rw [Stmt.emission]
      split <;> rfl
  | give word value =>
      rw [Stmt.emission, Stmt.writing?]
      split
      · rfl
      · simp [Emission.line, Writing.lines, Writing.text, Expr.code_term]
  | _ =>
      simp [Stmt.emission, Stmt.writing?, Emission.line, Writing.lines, Writing.text, Term.code,
        Term.codes, Expr.code_term, Args.codes_terms, String.append_assoc]

theorem Entry.lines_eq (e : Entry) : e.lines = Writing.lines e.indent e.writing? := by
  obtain ⟨types, indent, step⟩ := e
  cases step with
  | simple s hs => exact s.lines_eq types indent hs
  | opening word test =>
      simp [Entry.lines, Entry.writing?, Emission.line, Writing.lines, Writing.text, Test.head,
        Expr.code_term, String.append_assoc]
  | otherwise => rfl
  | closing => rfl

section

variable {words : List String}

theorem Stmt.sound (types : TypeTable) {s : Stmt} {w : Writing} (h : Words words s.yield)
    (hw : s.writing? types = some w) : w.term.Sound words := by
  cases s with
  | declare word name equal value =>
      cases hw
      exact (value.passable_term types h.of_cons.of_cons.of_cons).sound
  | print word value =>
      cases hw
      have hvalue := value.passable_term types h.of_cons
      have hroutine : ∀ kind, Gen.printRoutine kind ∈ Support.routines ∧
          Gen.printRoutine kind ∉ Support.concatenations ∧ (Gen.printRoutine kind).arity = 1 := by
        intro kind
        cases kind <;> decide
      obtain ⟨hr, hnot, harity⟩ := hroutine (value.fragment types).kind
      exact Term.fitting_of_passable hr hnot harity.symm (List.forall_mem_singleton.2 hvalue)
  | give word value =>
      rw [Stmt.writing?] at hw
      split at hw
      · cases hw
        trivial
      · cases hw
        exact (value.passable_term types h.of_cons).sound
  | writeFile word opening name comma content closing =>
      cases hw
      obtain ⟨hname, hrest⟩ := h.of_cons.of_cons.of_append
      have hargs : ∀ a ∈ [name.term types, content.term types], a.Passable words :=
        List.forall_mem_cons.2 ⟨name.passable_term types hname,
          List.forall_mem_singleton.2 (content.passable_term types hrest.of_cons.of_append.1)⟩
      exact Term.fitting_of_passable (by decide) (by decide) rfl hargs
  | readFile word opening name closing =>
      cases hw
      have hname := name.passable_term types h.of_cons.of_cons.of_append.1
      exact Term.fitting_of_passable (by decide) (by decide) rfl
        (List.forall_mem_singleton.2 hname)
  | assign name equal value =>
      cases hw
      exact (value.passable_term types h.of_cons.of_cons).sound
  | call name opening args closing =>
      cases hw
      have hname : name.value ∈ words := (h _ List.mem_cons_self (.inr rfl)).1
      have hargs := args.passable types h.of_cons.of_cons.of_append.1
      exact ⟨hname, Term.allSound_iff.2 fun a ha => (hargs a ha).sound⟩
  | _ => cases hw

/-- Whatever a step writes, the calls in it fit. -/
theorem Entry.sound {e : Entry} {w : Writing} (h : Words words e.tokens)
    (hw : e.writing? = some w) : w.term.Sound words := by
  obtain ⟨types, indent, step⟩ := e
  cases step with
  | simple s hs => exact Stmt.sound types h hw
  | opening word test =>
      cases hw
      exact (test.value.passable_term types h.of_cons.of_append.1).sound
  | otherwise =>
      cases hw
      trivial
  | closing =>
      cases hw
      trivial

end

/-- The numbers and names among some tokens. -/
def wordsAmong (ts : List Token) : List String :=
  (ts.filter fun t => t.kind = .integer ∨ t.kind = .identifier).map (·.value)

/-- No number and no name that is scanned is empty. -/
theorem words_tokenize (source : String) :
    Words (wordsAmong (tokenize source)) (tokenize source) := by
  intro t ht hkind
  refine ⟨List.mem_map_of_mem (List.mem_filter.2 ⟨ht, decide_eq_true hkind⟩), ?_⟩
  have hne : t.kind ≠ .eof := by
    rintro heof
    simp [heof] at hkind
  have htiled : Tiled [] source.toList (tokenize source) := tiled_lexemes [] source.toList
  obtain ⟨-, lexeme, after, -, -, -, hscans⟩ := htiled.owned t ht hne
  have hadmits := hscans.admits fun hstring => by simp [hstring] at hkind
  intro hempty
  rcases hkind with hkind | hkind <;> simp [hkind, hempty, TokenKind.admits] at hadmits

end Tree

open StageZero.Tree

/-- In a source that compiles, every call that the translation adds names a routine of the
support library and passes the arguments that its signature lists. Nothing is passed for
an argument only where the source has nothing for it, and what puts values together always
gets something for both of them. -/
theorem calls_fit_signatures {debug : Bool} {source : String} {c : Compilation}
    (h : (compile debug source).result = .ok c) :
    ∃ (p : Program) (l : Listing), yield p = beforeEnd (tokenize source) ∧ Fits [] p ∧
      l = Tree.listing {} p ∧ c.main = Text.concat l.outline.direct ∧
      c.functions = Text.concat (l.outline.postorder.map Body.text) ∧
      (∀ e ∈ l.entries, e.lines = Writing.lines e.indent e.writing? ∧
        ∀ w, e.writing? = some w → w.term.Sound (wordsAmong (tokenize source))) ∧
      ∀ (types : TypeTable) (value : Expr), value.yield ⊆ tokenize source →
        (value.term types = .row [] ↔ value = .nil) := by
  obtain ⟨s, hrun, rfl⟩ := of_compile_ok h
  obtain ⟨p, cursor, hp, hw⟩ := Gen.of_run_ofTokens hrun
  have hl := listed {} p
  have hwords := words_tokenize source
  refine ⟨p, _, hp.yield_eq, hp.fits_nil, rfl, ?_, ?_,
    fun e he => ⟨e.lines_eq, fun w hwriting => ?_⟩,
    fun types value hvalue => value.term_eq_row_nil_iff types (hwords.subset hvalue)⟩
  · exact congrArg Text.concat (hw.main.trans hl.lines)
  · exact congrArg Text.concat (hw.functions.trans hl.functions)
  · refine Entry.sound (hwords.subset fun t ht => ?_) hwriting
    have hmem : t ∈ (Tree.listing {} p).entries.flatMap Entry.tokens :=
      List.mem_flatMap.2 ⟨e, he, ht⟩
    exact beforeEnd_subset _ (hp.yield_eq ▸ hl.tokens.subset hmem)

/-- Calls in calls, in chains and in a condition, one of them of a function of the source. -/
def callingSource : String :=
  "write_file(\"a\" + strlen(x), char_at(\"b\" + 1 + y, 0))\nprint newline_char() + \"c\"\n" ++
    "if (streq(f(x), \"d\")) \x7b\nread_file(\"e\")\n\x7d\n"

/-- What becomes of it. -/
def callingMain : String :=
  "    __wear_write_file(__wear_concat_str_int(\"a\", __wear_strlen(x)), " ++
    "__wear_char_at(__wear_concat_str_int(__wear_concat_str_int(\"b\", 1), y), 0));\n" ++
    "    __wear_print_str(__wear_concat(__wear_newline_char(), \"c\"));\n" ++
    "    if (__wear_streq(f(x), \"d\")) \x7b\n        __wear_read_file(\"e\");\n    \x7d\n"

theorem calls_fit_signatures_calling :
    ∃ c, (compile true callingSource).result = .ok c ∧ c.main = callingMain ∧
      ∃ (p : Program) (l : Listing), yield p = beforeEnd (tokenize callingSource) ∧ Fits [] p ∧
        l = Tree.listing {} p ∧ c.main = Text.concat l.outline.direct ∧
        ∀ e ∈ l.entries, e.lines = Writing.lines e.indent e.writing? ∧
          ∀ w, e.writing? = some w → w.term.Sound (wordsAmong (tokenize callingSource)) := by
  have hok : (compile true callingSource).result.toOption.map (·.main) = some callingMain := by
    decide +kernel
  cases hc : (compile true callingSource).result with
  | error e =>
      rw [hc] at hok
      cases hok
  | ok c =>
      rw [hc] at hok
      obtain ⟨p, l, hyield, hfits, hl, hmain, -, hsound, -⟩ := calls_fit_signatures hc
      exact ⟨c, rfl, Option.some_inj.1 hok, p, l, hyield, hfits, hl, hmain, hsound⟩

/-- A print with nothing to print compiles. The one argument of its call is an expression
without parts, and nothing is passed for it. -/
theorem print_passes_nothing :
    ∃ (c : Compilation) (p : Program) (e : Entry) (w : Writing) (value : Expr),
      (compile false "print\n").result = .ok c ∧ c.main = "    __wear_print_int();\n" ∧
      yield p = beforeEnd (tokenize "print\n") ∧ Fits [] p ∧
      (Tree.listing {} p).entries = [e] ∧ e.lines = [c.main] ∧ e.writing? = some w ∧
      w.term = .call Support.printInt [value.term e.types] ∧
      Support.signatures.lookup Support.printInt.name = some ([.integer], none) ∧
      (value.term e.types).code = "" := by
  have hok : (compile false "print\n").result.toOption.map (·.main) =
      some "    __wear_print_int();\n" := by
    decide +kernel
  have hyield : [⟨.keyword .printK, "print", ⟨0, 1, 1⟩⟩, ⟨.newline, "\\n", ⟨5, 1, 6⟩⟩] =
      beforeEnd (tokenize "print\n") := by
    decide +kernel
  cases hc : (compile false "print\n").result with
  | error e =>
      rw [hc] at hok
      cases hok
  | ok c =>
      rw [hc] at hok
      have hmain : c.main = "    __wear_print_int();\n" := Option.some_inj.1 hok
      let s : Stmt := .print ⟨"print", ⟨0, 1, 1⟩⟩ .nil
      refine ⟨c, [.stmt s, .line ⟨"\\n", ⟨5, 1, 6⟩⟩], ⟨{}, 1, .simple s rfl⟩, _, .nil, rfl, hmain,
        hyield, ⟨⟨trivial, rfl⟩, trivial, trivial⟩, rfl, ?_, rfl, rfl, by decide +kernel, rfl⟩
      rw [hmain]
      decide +kernel

end StageZero
