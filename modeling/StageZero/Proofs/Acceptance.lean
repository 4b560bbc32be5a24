import StageZero.Proofs.Programs
import StageZero.Proofs.Silence
import StageZero.Proofs.Yields

/-!
# What is accepted, and what it becomes

The two directions of the reading, seen from outside: a generator is given a
list of tokens, with or without a trace, and at the end there is a state to
look at. `Wrote` says that the state holds exactly an emission.

Acceptance is sound. Whatever the generator accepts is the yield of a program
tree up to the first end of input, and what it has written is the emission of
that tree. Nothing that was read has escaped the tree: the opening words among
the tokens are the opening words of its statements, one by one and in order, and
the variables and functions that come out are as many as the words that
introduce them.
-/

namespace StageZero

open StageZero.Tree

/-! ## Runs over token lists -/

/-- A generator that began with a report and nothing else has written an
emission. -/
structure Wrote (report : Report) (e : Emission) (s : State) : Prop where
  main : s.output.main.toList = e.lines
  functions : s.output.functions.toList = e.functions
  names : s.output.names.toList = e.names
  types : s.types = TypeTable.declareAll {} e.declared
  report : s.report = report.remarkAll e.remarks

/-- The tokens before the end of input. -/
def beforeEnd (tokens : List Token) : List Token :=
  tokens.takeWhile fun t => t.kind ≠ .eof

/-- A cursor over a list sees the list, up to ends of input behind it. -/
theorem Cursor.rest_ofTokens (tokens : List Token) :
    ∃ l, (ofTokens tokens).rest = tokens ++ l ∧ ∀ t ∈ l, t.kind = .eof := by
  cases tokens with
  | nil => exact ⟨[.eof .start], rfl, by simp [Token.eof]⟩
  | cons t ts =>
      have hend : ∃ l, terminate t ts = ts ++ l ∧ ∀ u ∈ l, u.kind = .eof := by
        induction ts generalizing t with
        | nil =>
            unfold terminate
            split
            · exact ⟨[], rfl, by simp⟩
            · exact ⟨[t.eofAfter], rfl, by simp [Token.eofAfter, Token.eof]⟩
        | cons u us ih =>
            obtain ⟨l, hl, hk⟩ := ih u
            exact ⟨l, by rw [terminate, hl]; rfl, hk⟩
      obtain ⟨l, hl, hk⟩ := hend
      exact ⟨l, by rw [ofTokens, rest, hl]; rfl, hk⟩

theorem beforeEnd_of_without {ts : List Token} (h : Without .eof ts) (us : List Token) :
    beforeEnd (ts ++ us) = ts ++ beforeEnd us :=
  List.takeWhile_append_of_pos fun t ht => by simpa using h t ht

theorem beforeEnd_append {l : List Token} (h : ∀ t ∈ l, t.kind = .eof) (ts : List Token) :
    beforeEnd (ts ++ l) = beforeEnd ts := by
  induction ts with
  | nil =>
      cases l with
      | nil => rfl
      | cons t l => exact List.takeWhile_cons_of_neg (by simp [h t])
  | cons t ts ih =>
      unfold beforeEnd at ih ⊢
      rw [List.cons_append, List.takeWhile_cons, List.takeWhile_cons, ih]

namespace Gen

variable {depth : Nat} {tokens : List Token} {report : Report} {debug : Bool} {s s' : State}
  {p : Program} {c : Cursor}

theorem quiet_ofTokens (tokens : List Token) (report : Report) (debug : Bool) :
    (State.ofTokens tokens report debug).quiet = State.ofTokens tokens report false := rfl

/-- What a state holds can be read off without its trace. -/
theorem wrote_of_quiet {e : Emission}
    (h : s.quiet = (State.ofTokens tokens report false).after e c) : Wrote report e s := by
  have houtput : s.output = Output.extend {} e := congrArg State.output h
  have htypes : s.types = TypeTable.declareAll {} e.declared := congrArg State.types h
  have hreport : s.report = report.remarkAll e.remarks :=
    congrArg (fun s : State => s.report) h
  refine ⟨?_, ?_, ?_, htypes, hreport⟩ <;> rw [houtput] <;> simp [Output.extend]

/-- A run over a program at the head of a token list. -/
theorem run_ofTokens (report : Report) (debug : Bool)
    (hp : ProgramAt depth (.ofTokens tokens) p c) :
    ∃ s', run depth (.ofTokens tokens report debug) = .ok () s' ∧
      Wrote report (emission {} p) s' := by
  have hquiet := silent_run depth (.ofTokens tokens report debug)
  rw [quiet_ofTokens, run_of_program (s := .ofTokens tokens report false) rfl rfl hp] at hquiet
  cases hrun : run depth (.ofTokens tokens report debug) with
  | ok _ s' =>
      rw [hrun, mapState] at hquiet
      injection hquiet with _ hs
      exact ⟨s', rfl, wrote_of_quiet hs.symm⟩
  | error e s' => rw [hrun] at hquiet; cases hquiet

/-- A run that succeeded was over a program, and its emission is all that has
come of it. -/
theorem of_run_quiet (h : run depth (.ofTokens tokens report debug) = .ok () s') :
    ∃ p c, ProgramAt depth (.ofTokens tokens) p c ∧
      s'.quiet = (State.ofTokens tokens report false).after (emission {} p) c := by
  have hquiet := silent_run depth (.ofTokens tokens report debug)
  rw [quiet_ofTokens, h, mapState] at hquiet
  exact of_run_ok (s := .ofTokens tokens report false) rfl (Cursor.sealed_ofTokens tokens) rfl
    hquiet

/-- A run that succeeded was over a program. -/
theorem of_run_ofTokens (h : run depth (.ofTokens tokens report debug) = .ok () s') :
    ∃ p c, ProgramAt depth (.ofTokens tokens) p c ∧ Wrote report (emission {} p) s' := by
  obtain ⟨p, c, hp, hs⟩ := of_run_quiet h
  exact ⟨p, c, hp, wrote_of_quiet hs⟩

end Gen

/-- A program in a token list is all that stands before the end of input. -/
theorem ProgramAt.yield_eq {depth : Nat} {tokens : List Token} {p : Program} {c : Cursor}
    (hp : ProgramAt depth (.ofTokens tokens) p c) : yield p = beforeEnd tokens := by
  obtain ⟨l, hl, hk⟩ := Cursor.rest_ofTokens tokens
  have hend : beforeEnd c.rest = [] := List.takeWhile_cons_of_neg (by simp [hp.ends])
  have hrest := hp.moves.rest
  rw [hl] at hrest
  rw [← beforeEnd_append hk, hrest, beforeEnd_of_without (without_eof_yield p), hend,
    List.append_nil]

/-- The end of input looks like no token at all. -/
theorem Cursor.sameAhead_nil {c : Cursor} (h : c.here.kind = .eof) : SameAhead c.rest [] := by
  have hnext : nextKind c.rest = .eof := by rw [nextKind_rest, h]
  refine ⟨hnext, ?_⟩
  rw [nextKindPastLines_of_ne (by rw [hnext]; simp), hnext]
  rfl

/-- The end of input behind a program may as well not be there. -/
theorem ProgramAt.fits_nil {depth : Nat} {c c' : Cursor} {p : Program}
    (hp : ProgramAt depth c p c') : Fits [] p :=
  fits_congr (Cursor.sameAhead_nil hp.ends) hp.fits

/-- Tokens with an end of input among them go on with it behind what stands before
it. -/
theorem exists_append_eof {ts : List Token} {last : Token} (hl : last ∈ ts)
    (hk : last.kind = .eof) : ∃ e l, ts = beforeEnd ts ++ e :: l ∧ e.kind = .eof := by
  induction ts with
  | nil => cases hl
  | cons t ts ih =>
      by_cases ht : t.kind = .eof
      · refine ⟨t, ts, ?_, ht⟩
        rw [beforeEnd, List.takeWhile_cons_of_neg (by simp [ht]), List.nil_append]
      · have hmem : last ∈ ts := by
          rcases List.mem_cons.1 hl with rfl | hl
          · exact absurd hk ht
          · exact hl
        obtain ⟨e, l, heq, he⟩ := ih hmem
        refine ⟨e, l, ?_, he⟩
        rw [beforeEnd, List.takeWhile_cons_of_pos (by simp [ht]), List.cons_append]
        exact congrArg (t :: ·) heq

/-- The greedy tree of what stands before the end of input is a program in the
token list. -/
theorem exists_programAt {depth : Nat} {tokens : List Token} {p : Program}
    (hy : yield p = beforeEnd tokens) (hf : Fits [] p) (hn : nesting p ≤ depth) :
    ∃ c, ProgramAt depth (.ofTokens tokens) p c := by
  obtain ⟨e, l, hrest, he⟩ := exists_append_eof (List.mem_of_getLast? (Cursor.getLast?_rest _))
    (Cursor.sealed_ofTokens tokens)
  obtain ⟨l', hl', hk⟩ := Cursor.rest_ofTokens tokens
  have hbefore : beforeEnd (Cursor.ofTokens tokens).rest = yield p := by
    rw [hl', beforeEnd_append hk, hy]
  rw [hbefore] at hrest
  obtain ⟨c, hmoves, hc⟩ := Cursor.exists_moves hrest (List.cons_ne_nil e l)
  have hhere : c.here.kind = .eof := by rw [← nextKind_rest, hc]; exact he
  exact ⟨c, hmoves, hhere, fits_congr (Cursor.sameAhead_nil hhere).symm hf, hn⟩

/-! ## Declarations and functions are written once -/

namespace Tree

/-- An emission declares as many variables, and names as many functions, as
there are words for it among some tokens. -/
structure Emission.Counts (e : Emission) (words : List Token) : Prop where
  declared : e.declared.length = words.countP (·.kind = .keyword .varK)
  names : e.names.length = words.countP (·.kind = .keyword .functionK)

namespace Emission.Counts

variable {e f : Emission} {ts us : List Token}

theorem append (h : e.Counts ts) (h' : f.Counts us) : (e ++ f).Counts (ts ++ us) := by
  constructor
  · rw [declared_append, List.length_append, h.declared, h'.declared, List.countP_append]
  · show (e.names ++ f.names).length = _
    rw [List.length_append, h.names, h'.names, List.countP_append]

theorem line (indent : Nat) (code : String) : (Emission.line indent code).Counts [] := ⟨rfl, rfl⟩

theorem enclosed (h : e.Counts ts) (indent : Nat) (head : String) :
    (Emission.enclosed indent head e).Counts ts := by
  have := ((line indent (head ++ " \x7b")).append h).append (line indent "\x7d")
  rwa [List.nil_append, List.append_nil] at this

/-- A word that introduces neither a variable nor a function makes no
difference. -/
theorem cons {word : Keyword} (hv : word ≠ .varK) (hf : word ≠ .functionK) (m : Mark)
    (h : e.Counts ts) : e.Counts (m.as (.keyword word) :: ts) := by
  constructor
  · rw [h.declared, List.countP_cons_of_neg (by simpa using hv)]
  · rw [h.names, List.countP_cons_of_neg (by simpa using hf)]

theorem function (h : e.Counts ts) (m : Mark) (name : String) (params : List String) :
    (Emission.function name params e).Counts (m.as (.keyword .functionK) :: ts) := by
  constructor
  · rw [List.countP_cons_of_neg (by simp)]
    exact h.declared
  · rw [List.countP_cons_of_pos (by simp), ← h.names]
    rfl

end Emission.Counts

mutual

theorem Stmt.counts (types : TypeTable) (indent : Nat) :
    (s : Stmt) → (s.emission types indent).Counts s.openings
  | .declare word name _ value => ⟨by simp [Stmt.emission, Stmt.openings], by
      simp [Stmt.emission, Stmt.openings]⟩
  | .print word value => (Emission.Counts.line _ _).cons (by simp) (by simp) word
  | .loop word test body => ((body.counts types _).enclosed _ _).cons (by simp) (by simp) word
  | .branch word test body links other =>
      .cons (by simp) (by simp) word
        ((((body.counts types _).enclosed _ _).append (links.counts _ _)).append
          (other.counts _ _))
  | .function word name _ params _ body => (body.counts types 1).function word _ _
  | .give word value => by
      refine .cons (by simp) (by simp) word ?_
      unfold Stmt.emission
      split
      · exact .line _ _
      · exact .line _ _
  | .writeFile word _ _ _ _ _ => (Emission.Counts.line _ _).cons (by simp) (by simp) word
  | .readFile _ _ _ _ | .assign _ _ _ | .call _ _ _ _ => .line _ _
  | .idle _ => ⟨rfl, rfl⟩
  | .skipped tok h => by
      unfold Stmt.emission
      split
      · exact ⟨rfl, rfl⟩
      · exact ⟨rfl, rfl⟩

theorem Block.counts (types : TypeTable) (indent : Nat) :
    (b : Block) → (b.emission types indent).Counts b.openings
  | .mk _ items _ => items.counts types indent

theorem Items.counts (types : TypeTable) (indent : Nat) :
    (items : Items) → (items.emission types indent).Counts items.openings
  | .nil => ⟨rfl, rfl⟩
  | .line _ rest => rest.counts types indent
  | .stmt s rest => (s.counts types indent).append (rest.counts _ indent)

theorem Links.counts (types : TypeTable) (indent : Nat) :
    (links : Links) → (links.emission types indent).Counts links.openings
  | .nil => ⟨rfl, rfl⟩
  | .cons _ _ word test body rest =>
      .cons (by simp) (by simp) word
        (((body.counts types _).enclosed _ _).append (rest.counts _ indent))

theorem Other.counts (types : TypeTable) (indent : Nat) :
    (other : Other) → (other.emission types indent).Counts other.openings
  | .none => ⟨rfl, rfl⟩
  | .some _ _ body => (body.counts types _).enclosed _ _

end

end Tree

/-! ## Acceptance -/

/-- A printed name, a name that stands alone, an illegal character and a brace
that closes nothing. -/
def strayTokens : List Token :=
  [⟨.keyword .printK, "print", .start⟩, ⟨.identifier, "x", .start⟩, ⟨.newline, "\\n", .start⟩,
    ⟨.identifier, "y", .start⟩, ⟨.unknown, "?", .start⟩, ⟨.rbrace, "\x7d", .start⟩]

end StageZero
