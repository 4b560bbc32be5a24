import StageZero.Proofs.Diagnoses
import StageZero.Proofs.Marks

/-!
# Where diagnostics point

A diagnostic carries three things that are computed apart: a place, counted by the
scanner along the text; a line, picked by number from the text cut at its line
breaks and freed of carriage returns; and a caret, put under the line by adding
the width of a gutter to a column. They fit together for every source.

The link between them is a cut of the text in two. A place is what stands before
it; the line it names is the end of what stands before and the beginning of what
stands behind, up to the next line break on both sides. So the column is the length
of the first piece, and the character at it is the first of what stands behind. For
a token that is no line break this character is neither a line break nor a carriage
return, so it stays in the line when carriage returns are dropped from its end.
-/

namespace StageZero

open StageZero.Tree

/-! ## Lines of a text -/

namespace Text

variable {mark : Char}

theorem length_cut (mark : Char) (text : List Char) :
    (cut mark text).length = text.count mark + 1 := by
  induction text with
  | nil => rfl
  | cons c text ih =>
      by_cases hc : c = mark
      · rw [cut, if_pos hc, List.length_cons, ih, hc, List.count_cons_self]
      · obtain ⟨part, parts, hcut⟩ := List.exists_cons_of_ne_nil (cut_ne_nil mark text)
        rw [hcut, List.length_cons] at ih
        rw [cut, if_neg hc, hcut, List.count_cons_of_ne hc, List.length_cons, ih]

/-- A text is cut at a mark apart from what stands behind it. -/
theorem cut_append_mark (left right : List Char) :
    cut mark (left ++ mark :: right) = cut mark left ++ cut mark right := by
  induction left with
  | nil => simp [cut]
  | cons c left ih =>
      by_cases hc : c = mark
      · simp only [List.cons_append, cut, if_pos hc, ih]
      · obtain ⟨part, parts, hcut⟩ := List.exists_cons_of_ne_nil (cut_ne_nil mark left)
        simp only [List.cons_append, cut, if_neg hc, ih, hcut]

/-- The first stretch goes up to the first mark. -/
theorem head?_cut (text : List Char) :
    (cut mark text).head? = some (text.takeWhile (· ≠ mark)) := by
  induction text with
  | nil => rfl
  | cons c text ih =>
      by_cases hc : c = mark
      · simp [cut, hc]
      · obtain ⟨part, parts, hcut⟩ := List.exists_cons_of_ne_nil (cut_ne_nil mark text)
        rw [hcut, List.head?_cons, Option.some.injEq] at ih
        simp [cut, hc, hcut, ih]

theorem takeWhile_append_of_notMem {line : List Char} (h : mark ∉ line) (rest : List Char) :
    (line ++ rest).takeWhile (· ≠ mark) = line ++ rest.takeWhile (· ≠ mark) := by
  refine List.takeWhile_append_of_pos fun c hc => ?_
  exact decide_eq_true fun heq => h (heq ▸ hc)

/-- The stretch in which a text is divided, by the number of marks before. -/
theorem getElem?_cut (before after : List Char) :
    (cut mark (before ++ after))[before.count mark]? =
      some (tail mark before ++ after.takeWhile (· ≠ mark)) := by
  have hmark := mark_notMem_tail mark before
  have hfirst : (cut mark (tail mark before ++ after))[0]? =
      some (tail mark before ++ after.takeWhile (· ≠ mark)) := by
    rw [← List.head?_eq_getElem?, head?_cut, takeWhile_append_of_notMem hmark]
  rcases last_mark_cases mark before with ⟨-, heq⟩ | ⟨left, -, heq⟩
  · have hcount : before.count mark = 0 := by
      rw [heq]
      exact List.count_eq_zero.2 hmark
    rw [hcount]
    nth_rewrite 1 [heq]
    exact hfirst
  · have hcount : before.count mark = (cut mark left).length := by
      rw [length_cut]
      nth_rewrite 1 [heq]
      rw [List.count_append, List.count_cons_self, List.count_eq_zero.2 hmark]
    have hcut : cut mark (before ++ after) =
        cut mark left ++ cut mark (tail mark before ++ after) := by
      nth_rewrite 1 [heq]
      rw [List.append_assoc, List.cons_append, cut_append_mark]
    rw [hcut, hcount, List.getElem?_append_right (Nat.le_refl _), Nat.sub_self]
    exact hfirst

theorem length_dropEnd_le (c : Char) (text : String) : (dropEnd c text).length ≤ text.length := by
  obtain ⟨k, htext, -⟩ := dropEnd_append c text
  have := congrArg List.length htext
  rw [List.length_append, String.length_toList, String.length_toList] at this
  omega

theorem getElem?_dropEnd {c d : Char} {text : String} {i : Nat} (h : text.toList[i]? = some d)
    (hne : d ≠ c) : (dropEnd c text).toList[i]? = some d := by
  obtain ⟨k, htext, -⟩ := dropEnd_append c text
  rw [htext] at h
  by_cases hi : i < (dropEnd c text).toList.length
  · rw [List.getElem?_append_left hi] at h
    exact h
  · rw [List.getElem?_append_right (Nat.le_of_not_lt hi)] at h
    exact absurd (List.eq_of_mem_replicate (List.mem_of_getElem? h)) hne

end Text

/-! ## Places and lines -/

/-- The line in which a text is divided. -/
def lineAt (before after : List Char) : String :=
  String.ofList (Text.tail '\n' before ++ after.takeWhile (· ≠ '\n'))

theorem newline_notMem_lineAt (before after : List Char) :
    '\n' ∉ (lineAt before after).toList := by
  rw [lineAt, String.toList_ofList, List.mem_append, not_or]
  refine ⟨Text.mark_notMem_tail _ _, fun hmem => ?_⟩
  simpa using Lexeme.mem_takeWhile after '\n' hmem

theorem line_placeAfter (before : List Char) :
    ((placeAfter before).line - 1).toNat = before.count '\n' := by
  simp only [placeAfter]
  omega

theorem column_placeAfter (before : List Char) :
    (placeAfter before).column = 1 + (Text.tail '\n' before).length := by
  rw [Text.tail, List.length_reverse]
  rfl

/-- A character that is kept stands behind what comes before it in its line. -/
theorem getElem?_dropEnd_lineAt {c : Char} (before rest : List Char) (hline : c ≠ '\n')
    (hreturn : c ≠ '\r') :
    (Text.dropEnd '\r' (lineAt before (c :: rest))).toList[(Text.tail '\n' before).length]? =
      some c := by
  refine Text.getElem?_dropEnd ?_ hreturn
  rw [lineAt, String.toList_ofList, List.getElem?_append_right (Nat.le_refl _), Nat.sub_self]
  simp [hline]

theorem length_dropEnd_lineAt_le {after : List Char} (before : List Char)
    (h : after.takeWhile (· ≠ '\n') = []) :
    (Text.dropEnd '\r' (lineAt before after)).length ≤ (Text.tail '\n' before).length := by
  have hline : (lineAt before after).length = (Text.tail '\n' before).length := by
    rw [lineAt, h, List.append_nil, String.length_ofList]
  rw [← hline]
  exact Text.length_dropEnd_le '\r' _

section

variable {source : String} {before after : List Char}

theorem getElem?_lines (hs : source.toList = before ++ after) :
    (Text.lines source)[before.count '\n']? = some (lineAt before after) := by
  rw [Text.lines, List.getElem?_map, hs, Text.getElem?_cut]
  rfl

theorem context_placeAfter (hs : source.toList = before ++ after) :
    (Report.ofSource source).context (placeAfter before) =
      Text.dropEnd '\r' (lineAt before after) := by
  by_cases hempty : source = ""
  · subst hempty
    obtain ⟨rfl, rfl⟩ := List.append_eq_nil_iff.1 hs.symm
    rfl
  · have hsource : (Report.ofSource source).hasSource = true := decide_eq_true hempty
    have hlines : (Report.ofSource source).lines[before.count '\n']? =
        some (lineAt before after) := getElem?_lines hs
    have hpos : 0 < (placeAfter before).line := by
      simp only [placeAfter]
      omega
    rw [Report.context, line_placeAfter, hlines, hsource, if_pos (by simpa using hpos)]

end

/-! ## Where tokens stand -/

/-- A lexeme that is no line break begins with a character that is kept in its
line. -/
theorem Scans.head_ne {lexeme rest : List Char} {kind : TokenKind} {value : String}
    (h : Scans lexeme rest kind value) (hk : kind ≠ .newline) :
    ∃ c text, lexeme = c :: text ∧ c ≠ '\n' ∧ c ≠ '\r' := by
  cases h with
  | newline => exact absurd rfl hk
  | @integer digits _ hne hd hmax =>
      obtain ⟨c, text, rfl⟩ := List.exists_cons_of_ne_nil hne
      have hc := hd c List.mem_cons_self
      refine ⟨c, text, rfl, ?_, ?_⟩ <;> rintro rfl <;> cases hc
  | @word c text _ hc ht hmax =>
      refine ⟨c, text, rfl, ?_, ?_⟩ <;> rintro rfl <;> cases hc
  | closed rest hq hend => exact ⟨'"', _, rfl, by decide, by decide⟩
  | unclosed hq => exact ⟨'"', _, rfl, by decide, by decide⟩
  | @pair c _ _ hc hk => refine ⟨c, ['='], rfl, ?_, ?_⟩ <;> rintro rfl <;> simp at hc
  | @symbol c _ _ hp hs hk =>
      have hline : symbolKind? ['\n'] = none := by decide
      have hreturn : symbolKind? ['\r'] = none := by decide
      refine ⟨c, [], rfl, ?_, ?_⟩
      · rintro rfl
        rw [hline] at hk
        cases hk
      · rintro rfl
        rw [hreturn] at hk
        cases hk
  | @unknown c _ hn hb hq hd hw hp hk =>
      refine ⟨c, [], rfl, hn, ?_⟩
      rintro rfl
      cases hb

/-- What a token finds where it stands: the end of input nothing, a line break a
line break, and every other token a character that is kept in its line. -/
def Finds (kind : TokenKind) (after : List Char) : Prop :=
  if kind = .eof then after = []
  else if kind = .newline then ∃ rest, after = '\n' :: rest
  else ∃ c rest, after = c :: rest ∧ c ≠ '\n' ∧ c ≠ '\r'

theorem Finds.behind {kind : TokenKind} {after : List Char} (h : Finds kind after)
    (hk : kind = .newline ∨ kind = .eof) : after.takeWhile (· ≠ '\n') = [] := by
  rcases hk with rfl | rfl
  · obtain ⟨rest, rfl⟩ : ∃ rest, after = '\n' :: rest := h
    rfl
  · obtain rfl : after = [] := h
    rfl

theorem exists_finds {source : String} {tok : Token} (h : tok ∈ tokenize source) :
    ∃ before after, source.toList = before ++ after ∧ tok.pos = placeAfter before ∧
      Finds tok.kind after := by
  have htiled : Tiled [] source.toList (tokenize source) := tiled_lexemes [] source.toList
  by_cases heof : tok.kind = .eof
  · obtain ⟨ts, htokens, hts⟩ := htiled.ends
    rw [htokens] at h
    rcases List.mem_append.1 h with h | h
    · exact absurd heof (hts tok h)
    · obtain rfl := List.mem_singleton.1 h
      exact ⟨source.toList, [], (List.append_nil _).symm, rfl, rfl⟩
  · obtain ⟨before, lexeme, rest, hsource, -, hpos, hl⟩ := htiled.owned tok h heof
    refine ⟨before, lexeme ++ rest, by rw [hsource, List.append_assoc], hpos, ?_⟩
    by_cases hline : tok.kind = .newline
    · rw [hline] at hl ⊢
      rw [hl.eq_newline]
      exact ⟨rest, rfl⟩
    · obtain ⟨c, text, rfl, hn, hr⟩ := hl.head_ne hline
      rw [Finds, if_neg heof, if_neg hline]
      exact ⟨c, text ++ rest, rfl, hn, hr⟩

/-! ## Diagnostics -/

/-- The character at the place of a diagnostic is in its context, and the picture
has two lines, the quoted line and one with a caret under that character. -/
def Diagnostic.Shows (source : String) (d : Diagnostic) : Prop :=
  d.context ≠ "" ∧ ∃ c first second, ∃ width : Nat,
    source.toList[d.pos.index.toNat]? = some c ∧
    d.context.toList[(d.pos.column - 1).toNat]? = some c ∧
    d.pointer = first ++ "\n" ++ second ∧ '\n' ∉ first.toList ∧ '\n' ∉ second.toList ∧
    first = d.gutter ++ d.context ∧ (width : Int) = d.gutter.length + (d.pos.column - 1) ∧
    second = Text.repeated width ' ' ++ "^" ∧ first.toList[width]? = some c

/-- A diagnostic points at the place of a token. Its numbers count what stands
before the place, and its context is the line of that number without the carriage
returns at its end. A line break and the end of input lie behind all of that line;
every other token is shown. -/
structure Points (source : String) (tok : Token) (d : Diagnostic) : Prop where
  index : 0 ≤ d.pos.index ∧ d.pos.index ≤ source.length
  line : d.pos.line = 1 + (source.toList.take d.pos.index.toNat).count '\n'
  column : d.pos.column =
    1 + ((source.toList.take d.pos.index.toNat).reverse.takeWhile (· ≠ '\n')).length
  context : ∃ line returns, (Text.lines source)[(d.pos.line - 1).toNat]? = some line ∧
    line.toList = d.context.toList ++ List.replicate returns '\r' ∧
    d.context.toList.getLast? ≠ some '\r'
  seen : tok.kind ≠ .newline → tok.kind ≠ .eof → d.Shows source
  unseen : tok.kind = .newline ∨ tok.kind = .eof → (d.context.length : Int) ≤ d.pos.column - 1

theorem Diagnostic.newline_notMem_gutter {d : Diagnostic} {n : Nat} (h : d.pos.line = n) :
    '\n' ∉ d.gutter.toList := by
  have hdigits : '\n' ∉ (toString (n : Int)).toList := by
    intro hmem
    have hmem : '\n' ∈ Nat.toDigits 10 n := by
      rw [← Nat.toList_repr]
      exact hmem
    exact absurd (Nat.isDigit_of_mem_toDigits (by decide) (by decide) hmem) (by decide)
  rw [Diagnostic.gutter, h, String.toList_append, String.toList_append]
  simp only [List.mem_append, not_or]
  exact ⟨⟨by decide, hdigits⟩, by decide⟩

theorem Diagnostic.pointer_eq {d : Diagnostic} (h : d.context ≠ "") {k : Nat}
    (hcolumn : d.pos.column = 1 + k) :
    d.pointer = d.gutter ++ d.context ++ "\n" ++
      (Text.repeated (d.gutter.length + k) ' ' ++ "^") := by
  have hwidth : ((d.gutter.length : Int) + d.pos.column - 1).toNat = d.gutter.length + k := by
    omega
  rw [Diagnostic.pointer, if_neg h, hwidth, String.append_assoc]

section

variable {source : String} {before after : List Char} {d : Diagnostic}

theorem take_index (hs : source.toList = before ++ after) (hd : d.pos = placeAfter before) :
    source.toList.take d.pos.index.toNat = before := by
  rw [hs, hd]
  exact List.take_left

/-- A character that is kept in its line is shown. -/
theorem Diagnostic.shows_of_char {c : Char} {rest : List Char}
    (hs : source.toList = before ++ c :: rest) (hd : d.pos = placeAfter before)
    (hcontext : d.context = Text.dropEnd '\r' (lineAt before (c :: rest))) (hline : c ≠ '\n')
    (hreturn : c ≠ '\r') : d.Shows source := by
  have hcolumn : d.pos.column = 1 + (Text.tail '\n' before).length := by
    rw [hd, column_placeAfter]
  have hc : d.context.toList[(Text.tail '\n' before).length]? = some c := by
    rw [hcontext]
    exact getElem?_dropEnd_lineAt before rest hline hreturn
  have hne : d.context ≠ "" := by
    intro hempty
    rw [hempty] at hc
    cases hc
  have hfree : '\n' ∉ d.context.toList := by
    obtain ⟨returns, hreturns, -⟩ := Text.dropEnd_append '\r' (lineAt before (c :: rest))
    have hmem := newline_notMem_lineAt before (c :: rest)
    rw [hreturns, ← hcontext, List.mem_append, not_or] at hmem
    exact hmem.1
  have hgutter : '\n' ∉ d.gutter.toList := by
    refine newline_notMem_gutter (n := 1 + before.count '\n') ?_
    rw [hd, placeAfter, Int.natCast_add]
    rfl
  refine ⟨hne, c, _, _, d.gutter.length + (Text.tail '\n' before).length, ?_, ?_,
    pointer_eq hne hcolumn, ?_, ?_, rfl, by omega, rfl, ?_⟩
  · have hindex : d.pos.index.toNat = before.length := by rw [hd]; rfl
    rw [hs, hindex]
    simp
  · rwa [show (d.pos.column - 1).toNat = (Text.tail '\n' before).length by omega]
  · rw [String.toList_append, List.mem_append, not_or]
    exact ⟨hgutter, hfree⟩
  · simp [Text.repeated]
  · rw [String.toList_append, List.getElem?_append_right (by rw [String.length_toList]; omega),
      String.length_toList, Nat.add_sub_cancel_left]
    exact hc

end

/-- Every diagnostic made from a token of a source points at it. -/
theorem points_diagnose {source : String} {tok : Token} (h : tok ∈ tokenize source)
    (code message : String) :
    Points source tok ((Report.ofSource source).diagnose code message tok) := by
  obtain ⟨before, after, hs, hpos, hfinds⟩ := exists_finds h
  generalize hdiagnose : (Report.ofSource source).diagnose code message tok = d
  have hd : d.pos = placeAfter before := by
    rw [← hdiagnose]
    exact hpos
  have hcontext : d.context = Text.dropEnd '\r' (lineAt before after) := by
    rw [← hdiagnose, ← context_placeAfter hs, ← hpos]
    rfl
  refine ⟨⟨?_, ?_⟩, ?_, ?_, ?_, fun hn he => ?_, fun hk => ?_⟩
  · rw [hd]
    exact Int.natCast_nonneg _
  · have hlen := congrArg List.length hs
    rw [String.length_toList, List.length_append] at hlen
    rw [hd]
    show ((before.length : Nat) : Int) ≤ source.length
    omega
  · rw [take_index hs hd, hd]
    rfl
  · rw [take_index hs hd, hd]
    rfl
  · obtain ⟨returns, hreturns, hlast⟩ := Text.dropEnd_append '\r' (lineAt before after)
    rw [← hcontext] at hreturns hlast
    refine ⟨lineAt before after, returns, ?_, hreturns, hlast⟩
    rw [hd, line_placeAfter, getElem?_lines hs]
  · rw [Finds, if_neg he, if_neg hn] at hfinds
    obtain ⟨c, rest, rfl, hline, hreturn⟩ := hfinds
    exact Diagnostic.shows_of_char hs hd hcontext hline hreturn
  · have hlen := length_dropEnd_lineAt_le before (hfinds.behind hk)
    have hcolumn := column_placeAfter before
    rw [← hcontext] at hlen
    rw [hd]
    omega

/-! ## Compilations -/

/-- A diagnostic about a token of a source that points at it. -/
def Placed (source : String) (d : Diagnostic) : Prop :=
  ∃ code message tok, tok ∈ tokenize source ∧
    d = (Report.ofSource source).diagnose code message tok ∧ Points source tok d

theorem placed_diagnose {source : String} {tok : Token} (h : tok ∈ tokenize source)
    (code message : String) :
    Placed source ((Report.ofSource source).diagnose code message tok) :=
  ⟨code, message, tok, h, rfl, points_diagnose h code message⟩

theorem placed_warnings {source : String} {remarks : List (Remark × Token)}
    (h : ∀ m ∈ remarks, m.2 ∈ tokenize source) :
    ∀ d ∈ ((Report.ofSource source).remarkAll remarks).warnings.toList, Placed source d := by
  intro d hd
  rw [Report.warnings_ofSource] at hd
  obtain ⟨m, hm, rfl⟩ := List.mem_map.1 hd
  exact placed_diagnose (h m hm) _ _

/-- Whatever is diagnosed in a source, its error or a warning, points at the token
it is about. This is so for what a compilation gives, and for all that stands in the
report when the run ends, the warnings before a fault among them. -/
theorem diagnostics_point (debug : Bool) (source : String) :
    (match (compile debug source).result with
      | .ok c => ∀ d ∈ c.warnings, Placed source d
      | .error e => ∃ cause d tok, e = .fault cause d tok ∧ tok ∈ tokenize source ∧
          d = (Report.ofSource source).diagnose Fault.code cause.message tok ∧
          Points source tok d) ∧
    ∀ d, d ∈ (ending (Gen.run nestingLimit
          (.ofTokens (tokenize source) (.ofSource source) debug))).report.errors.toList ∨
        d ∈ (ending (Gen.run nestingLimit
          (.ofTokens (tokenize source) (.ofSource source) debug))).report.warnings.toList →
      Placed source d := by
  have hends := Gen.run_ends_ofSource source debug
  cases hrun : Gen.run nestingLimit (.ofTokens (tokenize source) (.ofSource source) debug) with
  | ok _ s =>
      rw [hrun] at hends
      cases hends with
      | success remarks hr h =>
          have hwarnings := placed_warnings hr
          rw [← h] at hwarnings
          simp only [compile, hrun]
          refine ⟨hwarnings, fun d hd => ?_⟩
          rcases hd with hd | hd
          · rw [ending, h] at hd
            cases hd
          · exact hwarnings d hd
  | error e s =>
      rw [hrun] at hends
      cases hends with
      | @stop _ remarks hr cause tok ht h =>
          simp only [compile, hrun]
          refine ⟨⟨cause, _, tok, rfl, ht, rfl, points_diagnose ht _ _⟩, fun d hd => ?_⟩
          rw [ending, h] at hd
          rcases hd with hd | hd
          · obtain rfl : d = (Report.ofSource source).diagnose Fault.code cause.message tok := by
              simpa [Report.addError, Report.remarkAll, Report.ofSource] using hd
            exact placed_diagnose ht _ _
          · exact placed_warnings hr d hd

/-- An illegal character and a missing name, in a line that ends in a carriage
return. -/
def carriedSource : String := "a\r\n@ var 5\r\n"

theorem diagnostics_point_carried :
    ∃ cause d tok, (compile false carriedSource).result = .error (.fault cause d tok) ∧
      d.pos = ⟨9, 2, 7⟩ ∧ d.context = "@ var 5" ∧ Points carriedSource tok d ∧
      d.Shows carriedSource ∧
      ∃ w ∈ (ending (Gen.run nestingLimit (.ofTokens (tokenize carriedSource)
        (.ofSource carriedSource) false))).report.warnings.toList,
        w.pos = ⟨3, 2, 1⟩ ∧ Placed carriedSource w := by
  have hresult : (compile false carriedSource).result = .error (.fault .missingVariable
      ⟨"SYN001", "Expected variable name after 'var'", ⟨9, 2, 7⟩, "5", "@ var 5"⟩
      ⟨.integer, "5", ⟨9, 2, 7⟩⟩) := by
    decide +kernel
  have hwarning : ⟨"LEX001", "Illegal character skipped", ⟨3, 2, 1⟩, "@", "@ var 5"⟩ ∈
      (ending (Gen.run nestingLimit (.ofTokens (tokenize carriedSource)
        (.ofSource carriedSource) false))).report.warnings.toList := by
    decide +kernel
  obtain ⟨hcompile, hall⟩ := diagnostics_point false carriedSource
  rw [hresult] at hcompile
  obtain ⟨cause, d, tok, he, -, -, hp⟩ := hcompile
  cases he
  exact ⟨_, _, _, hresult, rfl, rfl, hp, hp.seen (by simp) (by simp), _, hwarning, rfl,
    hall _ (.inr hwarning)⟩

end StageZero
