import StageZero.Proofs.Acceptance
import StageZero.Proofs.Rescan

/-!
# Longer sources write more

A source that ends in a line break is compiled to the beginning of what any
longer source is compiled to, if both are compiled at all. Two runs are compared
here that see different tokens from some point on, and the question is how far
ahead the generator looks. It looks at the token behind an expression, and that
is there in both runs: the line break. And it looks behind line breaks for an
alternative to a branch, where the longer source may have one. But a branch is
written before its alternatives are looked for, so that even then the longer run
goes on where the shorter one stopped.

The comparison follows the tree of the shorter source. As long as a statement
fits what follows it in the longer source, both runs do the same with it.
-/

namespace StageZero

open StageZero.Tree

/-! ## Statements before more tokens -/

namespace Tree

/-- Behind tokens that are not all line breaks, it does not matter what comes
next. -/
theorem sameAhead_append {ys : List Token} (h : ¬ ∀ y ∈ ys, y.kind = .newline)
    (us vs : List Token) : SameAhead (ys ++ us) (ys ++ vs) := by
  induction ys with
  | nil => exact absurd (by simp) h
  | cons y ys ih =>
      by_cases hy : y.kind = .newline
      · refine (ih fun hys => h ?_).cons y
        intro z hz
        rcases List.mem_cons.1 hz with rfl | hz
        · exact hy
        · exact hys z hz
      · refine ⟨rfl, ?_⟩
        rw [List.cons_append, List.cons_append, nextKindPastLines_of_ne (by exact hy),
          nextKindPastLines_of_ne (by exact hy)]
        rfl

/-- A statement that was the greedy one at the end of the tokens is so before
more tokens, but for a branch that finds an alternative there. -/
theorem Stmt.fits_before {s : Stmt} {ys : List Token} (hne : ys ≠ []) (hf : s.Fits ys)
    (us : List Token) :
    s.Fits (ys ++ us) ∨ ((∀ y ∈ ys, y.kind = .newline) ∧
      ∃ word test body links, s = .branch word test body links .none) := by
  by_cases hlines : ∀ y ∈ ys, y.kind = .newline
  · have hnext : nextKind (ys ++ us) = nextKind ys := nextKind_append hne us
    cases s with
    | declare word name equal value => exact .inl ⟨hf.1, hnext ▸ hf.2⟩
    | print word value => exact .inl ⟨hf.1, hnext ▸ hf.2⟩
    | branch word test body links other =>
        cases other with
        | none => exact .inr ⟨hlines, word, test, body, links, rfl⟩
        | some lines word' body' => exact .inl hf
    | give word value => exact .inl ⟨hf.1, hnext ▸ hf.2⟩
    | assign name equal value => exact .inl ⟨hf.1, hnext ▸ hf.2⟩
    | idle name => exact .inl ⟨hnext ▸ hf.1, hnext ▸ hf.2⟩
    | _ => exact .inl hf
  · have hsame := sameAhead_append hlines [] us
    rw [List.append_nil] at hsame
    exact .inl (Stmt.fits_congr hsame hf)

/-- Line breaks write nothing. -/
theorem emission_of_lines {p : Program} (h : ∀ t ∈ yield p, t.kind = .newline)
    (types : TypeTable) : emission types p = .empty := by
  induction p generalizing types with
  | nil => rfl
  | cons t p ih =>
      rw [yield_cons] at h
      have hp : emission (types.declareAll (t.emission types).declared) p = .empty :=
        ih (fun u hu => h u (List.mem_append_right _ hu)) _
      cases t with
      | line m => exact (Emission.empty_append _).trans hp
      | stray m => cases h (m.as .rbrace) (List.mem_append_left _ (List.mem_singleton.2 rfl))
      | stmt s =>
          obtain ⟨t, ts, hts⟩ := List.exists_cons_of_ne_nil s.yield_ne_nil
          have hk := h t (List.mem_append_left _ (by simp [Top.yield, hts]))
          have hb := s.nextKind_yield
          rw [hts, nextKind, hk] at hb
          cases hb

end Tree

/-! ## The longer run -/

namespace Gen

variable {depth n : Nat} {s s' : State} {c : Cursor}

/-- A branch without a last alternative has been written when alternatives are
looked for. -/
theorem of_branch_ok (hq : s.debug = false) (hs : s.cursor.Sealed) {word : Mark} {test : Test}
    {body : Block} {links : Links} (hi : s.output.indent = 1)
    (hm : s.cursor.Moves (Stmt.branch word test body links .none).yield c)
    (hf : test.value.Proper ∧ body.Fits ∧ links.Fits)
    (hn : (Stmt.branch word test body links .none).nesting ≤ depth)
    (h : statement depth s = .ok () s') :
    ∃ e ts c', c.Moves ts c' ∧
      s' = s.after ((Stmt.branch word test body links .none).emission s.types 1 ++ e) c' := by
  obtain ⟨depth, rfl⟩ : ∃ d, depth = d + 1 :=
    ⟨depth - 1, by have := (generates_statement depth).pos h; omega⟩
  have hhere : s.cursor.here.kind = .keyword .ifK := by rw [hm.here_eq]; rfl
  have hif : statement (depth + 1) s = ifStatement (expression (depth + 1)) (statement depth) s :=
    statementOver_of_handler hq (by rw [hhere]; rfl) (by rw [hhere]; rfl)
  obtain ⟨k, hk, heq⟩ := ifStatement_of_links (generates_statement depth) hq hm hf hn
  rw [hif, heq] at h
  obtain ⟨links', other, c', hat, rfl⟩ :=
    of_alternatives_ok (generates_statement depth) (s := s.after _ c) hq (hm.isSealed hs) hk h
  rw [State.after_after, hi]
  exact ⟨_, _, c', hat.moves, rfl⟩

/-- Where the tokens begin with a program that ends in a line break, what the
program writes is written first. -/
theorem loop_grows (hq : s.debug = false) (hs : s.cursor.Sealed) (hi : s.output.indent = 1)
    {p : Program} (hend : yield p = [] ∨ EndsInLine (yield p)) (hf : Fits [] p)
    (hnest : nesting p ≤ depth) (hm : s.cursor.Moves (yield p) c)
    (hn : s.cursor.ahead.length < n) (h : loop depth n s = .ok () s') :
    ∃ e c', s' = s.after (emission s.types p ++ e) c' := by
  induction p generalizing s n with
  | nil =>
      obtain ⟨p', c', -, rfl⟩ := of_loop_ok hq hs hi hn h
      exact ⟨_, c', by rw [emission, Emission.empty_append]⟩
  | cons t p ih =>
      obtain ⟨n, rfl⟩ : ∃ k, n = k + 1 := ⟨n - 1, by omega⟩
      obtain ⟨c₁, hm₁, hm₂⟩ := hm.split
      have hnest := Nat.max_le.1 hnest
      have hlen := hm₁.length_ahead
      have hpos := List.length_pos_iff.2 t.yield_ne_nil
      have hends : EndsInLine (t.yield ++ yield p) := by
        rcases hend with hnil | hends
        · exact absurd (List.append_eq_nil_iff.1 hnil).1 t.yield_ne_nil
        · exact hends
      have hend' : yield p = [] ∨ EndsInLine (yield p) := by
        by_cases hnil : yield p = []
        · exact .inl hnil
        · exact .inr (hends.of_append hnil)
      -- what both runs take alike
      have same : TopAt depth s.cursor t c₁ →
          ∃ e c', s' = s.after (emission s.types (t :: p) ++ e) c' := by
        intro hat
        obtain ⟨k, hk, heq⟩ := loop_top hq hi hat n
        obtain ⟨e, c', rfl⟩ :=
          ih (s := s.after (t.emission s.types) c₁) (n := k) hq (hm₁.isSealed hs)
            (by rw [State.indent_after, hi]) hend' hf.2 hnest.2 hm₂
            (by rw [State.cursor_after]; omega) (heq ▸ h)
        exact ⟨e, c', by rw [State.after_after, ← Emission.append_assoc]; rfl⟩
      cases t with
      | line m => exact same ⟨hm₁, trivial, hnest.1⟩
      | stray m => exact same ⟨hm₁, trivial, hnest.1⟩
      | stmt t =>
          have hne : yield p ≠ [] := by
            intro hnil
            rw [hnil, List.append_nil] at hends
            exact t.not_endsInLine hends
          have hfits : t.Fits (yield p) := by
            have := hf.1
            rwa [List.append_nil] at this
          rcases t.fits_before hne hfits c.rest with hlong | ⟨hlines, word, test, body, links, rfl⟩
          · exact same ⟨hm₁, by rw [hm₂.rest]; exact hlong, hnest.1⟩
          · -- the branch is written, and what follows is written behind it
            have hhere : s.cursor.here.kind = .keyword .ifK := by rw [hm₁.here_eq]; rfl
            rw [loop_of_ne (by rw [hhere]; simp)] at h
            obtain ⟨_, s₁, h₁, h⟩ := of_bind_ok h
            rw [topLevel_of_ne (by rw [hhere]; simp)] at h₁
            obtain ⟨e, ts, c₂, hm₃, rfl⟩ := of_branch_ok hq hs hi hm₁
              ⟨hfits.1, hfits.2.1, hfits.2.2.1⟩ hnest.1 h₁
            have hlen₂ := hm₃.length_ahead
            obtain ⟨p', c', -, rfl⟩ := of_loop_ok (s := s.after _ c₂) hq
              (hm₃.isSealed (hm₁.isSealed hs)) (by rw [State.indent_after, hi])
              (by rw [State.cursor_after]; omega) h
            rw [State.after_after, emission, emission_of_lines hlines, Emission.append_empty,
              Emission.append_assoc]
            exact ⟨_, c', rfl⟩

/-- The same for a run over a token list. -/
theorem run_grows {tokens : List Token} {report : Report} {debug : Bool} {p : Program}
    (hend : yield p = [] ∨ EndsInLine (yield p)) (hf : Fits [] p) (hnest : nesting p ≤ depth)
    (hm : (Cursor.ofTokens tokens).Moves (yield p) c)
    (h : run depth (.ofTokens tokens report debug) = .ok () s') :
    ∃ e, Wrote report (emission {} p ++ e) s' := by
  have hquiet := silent_run depth (.ofTokens tokens report debug)
  rw [quiet_ofTokens, h, mapState] at hquiet
  replace hquiet := (bind_ok remaining_eq).symm.trans hquiet
  obtain ⟨e, c', heq⟩ := loop_grows (s := .ofTokens tokens report false) rfl
    (Cursor.sealed_ofTokens tokens) rfl hend hf hnest hm (Nat.lt_succ_self _) hquiet
  exact ⟨e, wrote_of_quiet heq⟩

end Gen

/-! ## Texts, types and warnings -/

theorem Text.concat_append (a b : List String) :
    Text.concat (a ++ b) = Text.concat a ++ Text.concat b := by
  have hfold : ∀ (l : List String) (init : String),
      l.foldl (· ++ ·) init = init ++ l.foldl (· ++ ·) "" := by
    intro l
    induction l with
    | nil => intro init; simp
    | cons x l ih =>
        intro init
        rw [List.foldl_cons, List.foldl_cons, ih, ih ("" ++ x), String.empty_append,
          String.append_assoc]
  unfold Text.concat
  rw [List.foldl_append, hfold]

/-- What is cut off before the last mark of a text is the same in every longer
text. -/
theorem Text.cut_append {mark : Char} {text : List Char} {k : Nat} (h : k < text.count mark)
    (more : List Char) : (Text.cut mark (text ++ more))[k]? = (Text.cut mark text)[k]? := by
  induction text generalizing k with
  | nil => simp at h
  | cons c text ih =>
      by_cases hc : c = mark
      · rw [List.cons_append, Text.cut, if_pos hc, Text.cut, if_pos hc]
        cases k with
        | zero => rfl
        | succ k =>
            rw [hc, List.count_cons_self] at h
            rw [List.getElem?_cons_succ, List.getElem?_cons_succ]
            exact ih (by omega)
      · rw [List.count_cons_of_ne hc] at h
        obtain ⟨q, qs, hq⟩ := List.exists_cons_of_ne_nil (Text.cut_ne_nil mark (text ++ more))
        obtain ⟨r, rs, hr⟩ := List.exists_cons_of_ne_nil (Text.cut_ne_nil mark text)
        have hk := ih h
        rw [List.cons_append, Text.cut, if_neg hc, Text.cut, if_neg hc, hq, hr]
        rw [hq, hr] at hk
        cases k with
        | zero =>
            obtain rfl : q = r := by simpa using hk
            rfl
        | succ k => exact hk

namespace TypeTable

theorem names_set (name : String) (kind : ValueKind) (entries : List (String × ValueKind)) :
    entries.map (·.1) <+: (set name kind entries).map (·.1) := by
  induction entries with
  | nil => exact List.nil_prefix
  | cons entry rest ih =>
      unfold set
      split
      · next h => simp only [List.map_cons, h, List.prefix_refl]
      · rw [List.map_cons, List.map_cons]
        exact (List.prefix_cons_inj _).2 ih

/-- Declared names stay, in their order. -/
theorem names_declareAll (t : TypeTable) (ds : List (String × ValueKind)) :
    t.names <+: (t.declareAll ds).names := by
  induction ds generalizing t with
  | nil => exact List.prefix_refl _
  | cons d ds ih => exact (names_set d.1 d.2 t.entries).trans (ih _)

end TypeTable

/-- A line that ends in a source is quoted alike in every longer source. -/
theorem Report.context_append {source : String} {left right : List Char} (more : String)
    (hs : source.toList = left ++ right) (hline : '\n' ∈ right) :
    (Report.ofSource (source ++ more)).context (placeAfter left) =
      (Report.ofSource source).context (placeAfter left) := by
  have hcount : left.count '\n' < source.toList.count '\n' := by
    have := List.count_pos_iff.2 hline
    rw [hs, List.count_append]
    omega
  have hsource : ∀ text : String, '\n' ∈ text.toList → (ofSource text).hasSource = true := by
    intro text hmem
    refine decide_eq_true fun hempty => ?_
    rw [hempty] at hmem
    cases hmem
  have hmem : '\n' ∈ source.toList := by
    rw [hs]
    exact List.mem_append_right _ hline
  have hline : ((placeAfter left).line - 1).toNat = left.count '\n' := by
    simp only [placeAfter]
    omega
  have hlines : (ofSource (source ++ more)).lines[left.count '\n']? =
      (ofSource source).lines[left.count '\n']? := by
    simp only [ofSource, Text.lines, List.getElem?_map, String.toList_append]
    rw [Text.cut_append hcount]
  unfold Report.context
  rw [hsource source hmem, hsource (source ++ more) (by rw [String.toList_append]; simp [hmem]),
    hline, hlines]

theorem Report.warnings_ofSource (source : String) (remarks : List (Remark × Token)) :
    ((ofSource source).remarkAll remarks).warnings.toList =
      remarks.map fun m => (ofSource source).diagnose m.1.code m.1.message m.2 := by
  simp [remarkAll, ofSource]

/-! ## Compilations -/

/-- A source that is empty or whose last token is a line break. -/
def LineEnded (source : String) : Prop :=
  source = "" ∨ EndsInLine (beforeEnd (tokenize source))

/-- One compilation begins with everything another has. -/
structure Compilation.Extends (b a : Compilation) : Prop where
  main : ∃ more, b.main = a.main ++ more
  functions : ∃ more, b.functions = a.functions ++ more
  functionNames : a.functionNames <+: b.functionNames
  warnings : a.warnings <+: b.warnings
  types : a.types.names <+: b.types.names

theorem of_compile_ok {debug : Bool} {source : String} {a : Compilation}
    (h : (compile debug source).result = .ok a) :
    ∃ s, Gen.run nestingLimit (.ofTokens (tokenize source) (.ofSource source) debug) = .ok () s ∧
      a = .ofState (tokenize source) s := by
  cases hrun : Gen.run nestingLimit (.ofTokens (tokenize source) (.ofSource source) debug) with
  | ok _ s =>
      simp only [compile, hrun] at h
      cases h
      exact ⟨s, rfl, rfl⟩
  | error e s =>
      simp only [compile, hrun] at h
      cases h

/-- An emission is the beginning of a longer one, and so is everything that is
compiled from it, if the same is said about what both remark on. -/
theorem Wrote.extends {source source' : String} {e f : Emission} {s s' : State}
    {tokens tokens' : List Token} (h : Wrote (.ofSource source) e s)
    (h' : Wrote (.ofSource source') (e ++ f) s')
    (hd : ∀ m ∈ e.remarks, (Report.ofSource source').diagnose m.1.code m.1.message m.2 =
      (Report.ofSource source).diagnose m.1.code m.1.message m.2) :
    (Compilation.ofState tokens' s').Extends (.ofState tokens s) where
  main := by
    refine ⟨Text.concat f.lines, ?_⟩
    show Text.concat s'.output.main.toList = Text.concat s.output.main.toList ++ _
    rw [h.main, h'.main, ← Text.concat_append]
    rfl
  functions := by
    refine ⟨Text.concat f.functions, ?_⟩
    show Text.concat s'.output.functions.toList = Text.concat s.output.functions.toList ++ _
    rw [h.functions, h'.functions, ← Text.concat_append]
    rfl
  functionNames := by
    refine ⟨f.names, ?_⟩
    show s.output.names.toList ++ f.names = s'.output.names.toList
    rw [h.names, h'.names]
    rfl
  warnings := by
    refine ⟨f.remarks.map fun m =>
      (Report.ofSource source').diagnose m.1.code m.1.message m.2, ?_⟩
    show s.report.warnings.toList ++ _ = s'.report.warnings.toList
    rw [h.report, h'.report, Report.warnings_ofSource, Report.warnings_ofSource,
      ← List.map_congr_left hd]
    exact List.map_append.symm
  types := by
    show s.types.names <+: s'.types.names
    rw [h.types, h'.types, Emission.declared_append, TypeTable.declareAll_append]
    exact TypeTable.names_declareAll _ _

/-- The tokens of a source are those before the end of input, and that. -/
theorem tokenize_eq (source : String) :
    ∃ e, e.kind = .eof ∧ tokenize source = beforeEnd (tokenize source) ++ [e] := by
  obtain ⟨ts, hts, hne⟩ := (tiled_lexemes [] source.toList).ends
  have htokens : tokenize source = ts ++ [.eof (placeAfter source.toList)] := hts
  refine ⟨.eof (placeAfter source.toList), rfl, ?_⟩
  rw [htokens, beforeEnd_of_without hne, show beforeEnd [Token.eof _] = [] from rfl,
    List.append_nil]

theorem tokenize_empty : tokenize "" = [.eof .start] := by
  rw [tokenize, String.toList_empty, lexemes]
  rfl

/-- The tokens of a source that ends in a line break are the first of those of
every longer source. -/
theorem LineEnded.tokenize_append {source : String} (h : LineEnded source) (more : String) :
    ∃ behind, behind ≠ [] ∧
      tokenize (source ++ more) = beforeEnd (tokenize source) ++ behind := by
  obtain ⟨e, -, htokens⟩ := tokenize_eq source
  rcases h with rfl | ⟨last, hlast, hk⟩
  · refine ⟨tokenize ("" ++ more), placeTokens_ne_nil _ _, ?_⟩
    rw [tokenize_empty]
    rfl
  · unfold tokenize at htokens ⊢
    rw [String.toList_append]
    exact placeTokens_append htokens hlast hk more.toList

/-- What is remarked on in a source that ends in a line break is reported alike
over every longer source. -/
theorem LineEnded.diagnose_append {source : String} (h : LineEnded source) (more : String)
    {t : Token} (ht : t ∈ beforeEnd (tokenize source)) (code message : String) :
    (Report.ofSource (source ++ more)).diagnose code message t =
      (Report.ofSource source).diagnose code message t := by
  rcases h with rfl | ⟨last, hlast, hk⟩
  · rw [tokenize_empty] at ht
    cases ht
  · obtain ⟨e, -, htokens⟩ := tokenize_eq source
    obtain ⟨left, right, hs, hmem, hpos⟩ :=
      (tiled_lexemes [] source.toList).before_line htokens hlast hk t ht
    have hcontext := Report.context_append more hs hmem
    rw [List.nil_append] at hpos
    unfold Report.diagnose
    rw [hpos, hcontext]

/-- A source that ends in a line break is compiled to the beginning of what
every longer source is compiled to. -/
theorem LineEnded.compile_extends {source more : String} (h : LineEnded source)
    {debug debug' : Bool} {a b : Compilation} (ha : (compile debug source).result = .ok a)
    (hb : (compile debug' (source ++ more)).result = .ok b) : b.Extends a := by
  obtain ⟨s, hrun, rfl⟩ := of_compile_ok ha
  obtain ⟨s', hrun', rfl⟩ := of_compile_ok hb
  obtain ⟨p, c, hp, hw⟩ := Gen.of_run_ofTokens hrun
  have hyield := hp.yield_eq
  have hend : yield p = [] ∨ EndsInLine (yield p) := by
    rw [hyield]
    rcases h with rfl | hends
    · exact .inl (by rw [tokenize_empty]; rfl)
    · exact .inr hends
  -- the longer source begins with the tokens of the program
  obtain ⟨behind, hne, htokens⟩ := h.tokenize_append more
  obtain ⟨l, hl, -⟩ := Cursor.rest_ofTokens (tokenize (source ++ more))
  rw [← hyield] at htokens
  have hrest : (Cursor.ofTokens (tokenize (source ++ more))).rest = yield p ++ (behind ++ l) := by
    rw [hl, htokens, List.append_assoc]
  obtain ⟨c', hm, -⟩ := Cursor.exists_moves hrest (List.append_ne_nil_of_left_ne_nil hne l)
  obtain ⟨e, hw'⟩ := Gen.run_grows hend hp.fits_nil hp.nesting hm hrun'
  refine hw.extends hw' fun m hmem => ?_
  rw [h.diagnose_append more (hyield ▸ about_yield {} p m hmem)]

end StageZero
