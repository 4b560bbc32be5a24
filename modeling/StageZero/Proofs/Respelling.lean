import StageZero.Proofs.Parting
import StageZero.Proofs.Sources

/-!
# Spelling is invisible

A keyword may be written in more than one way, and a source may be laid out in
more than one way. None of this is seen in what a source is compiled to. Two
sources whose tokens are alike, one by one, are compiled to the same, with the
same warnings on the same tokens, or they fail on the same token. This is the
comparison of two runs for the pairing that takes the tokens of both lists one by
one, and what it says about the words in between is only that they need not be
the same.

The other half is about texts. Writing keywords in other words leaves the tokens
alike, because a lexeme is found again where it stood: how far it reaches depends
on the character behind it, and only on whether that one can still belong to it.
All words start with a character of one sort, so no lexeme before a keyword can
tell which of them is there.
-/

namespace StageZero

/-! ## Tokens that are alike -/

/-- Tokens of one kind, and of one value if it is written. -/
def Token.Alike (t t' : Token) : Prop :=
  t.kind = t'.kind ∧ (t.kind.hasValue = true → t.value = t'.value)

instance (t t' : Token) : Decidable (t.Alike t') :=
  inferInstanceAs (Decidable (_ ∧ _))

/-- The tokens stand at the same place in two lists. -/
def SamePlace (tokens tokens' : List Token) (t t' : Token) : Prop :=
  ∃ n : Nat, tokens[n]? = some t ∧ tokens'[n]? = some t'

/-- The same said about the tokens at the same place in two sources. -/
def SameDiagnostic (source source' : String) (d d' : Diagnostic) : Prop :=
  ∃ code message t t', SamePlace (tokenize source) (tokenize source') t t' ∧
    d = (Report.ofSource source).diagnose code message t ∧
    d' = (Report.ofSource source').diagnose code message t'

/-- Two sources are compiled to the same, or they fail at the same place. -/
inductive SameResult (source source' : String) :
    Except Failure Compilation → Except Failure Compilation → Prop where
  | ok {a b : Compilation} (hdocument : a.document = b.document) (hmain : a.main = b.main)
      (hfunctions : a.functions = b.functions) (hnames : a.functionNames = b.functionNames)
      (htypes : a.types = b.types)
      (hwarnings : List.Forall₂ (SameDiagnostic source source') a.warnings b.warnings) :
      SameResult source source' (.ok a) (.ok b)
  | error {cause cause' : Fault} {t t' : Token}
      (hplace : SamePlace (tokenize source) (tokenize source') t t') :
      SameResult source source'
        (.error (.fault cause ((Report.ofSource source).diagnose Fault.code cause.message t) t))
        (.error (.fault cause' ((Report.ofSource source').diagnose Fault.code cause'.message t')
          t'))

namespace Cursor

variable {T : Token → Token → Prop} {c c' : Cursor}

theorem forall₂_next (h : List.Forall₂ T c.rest c'.rest) :
    List.Forall₂ T c.next.rest c'.next.rest := by
  obtain ⟨passed, here, ahead⟩ := c
  obtain ⟨passed', here', ahead'⟩ := c'
  have hahead := (List.forall₂_cons.1 h).2
  cases hahead with
  | nil => exact h
  | cons ht hts => exact .cons ht hts

theorem forall₂_skipNewlines (hkind : ∀ {t t'}, T t t' → t.kind = t'.kind)
    (h : List.Forall₂ T c.rest c'.rest) :
    List.Forall₂ T c.skipNewlines.rest c'.skipNewlines.rest := by
  obtain ⟨passed, here, ahead⟩ := c
  obtain ⟨passed', here', ahead'⟩ := c'
  unfold skipNewlines
  induction ahead generalizing passed here passed' here' ahead' with
  | nil =>
      obtain ⟨hhere, hahead⟩ := List.forall₂_cons.1 h
      cases hahead
      exact .cons hhere .nil
  | cons t ts ih =>
      obtain ⟨hhere, hahead⟩ := List.forall₂_cons.1 h
      cases hahead with
      | cons ht hts =>
          unfold dropNewlines
          rw [← hkind hhere]
          split
          · exact ih _ _ _ _ _ (.cons ht hts)
          · exact .cons hhere (.cons ht hts)

end Cursor

/-- The pairing of two lists whose tokens correspond one by one. -/
def Pairing.oneByOne (exact : Prop) (report report' : Report) (T : Token → Token → Prop)
    (hkind : ∀ {t t'}, T t t' → t.kind = t'.kind)
    (hvalue : ∀ {t t'}, exact → T t t' → t.kind.hasValue = true → t.value = t'.value) :
    Pairing where
  exact := exact
  report := report
  report' := report'
  Tokens := T
  Cursors c c' := (c.Sealed ∧ c'.Sealed) ∧ List.Forall₂ T c.rest c'.rest
  gap := 0
  kind := hkind
  value := hvalue
  here h := (List.forall₂_cons.1 h.2).1
  next {c c'} h hk := by
    have hne : c.here.kind ≠ .eof := by
      intro he
      rw [he] at hk
      cases hk
    have hne' : c'.here.kind ≠ .eof := by
      rw [← hkind (List.forall₂_cons.1 h.2).1]
      exact hne
    exact ⟨⟨(h.1.1.moves_next hne).isSealed h.1.1, (h.1.2.moves_next hne').isSealed h.1.2⟩,
      Cursor.forall₂_next h.2⟩
  isSealed h := h.1.1
  isSealed' h := h.1.2
  ahead h := (List.forall₂_cons.1 h.2).2.length_eq.symm

/-- Lists whose tokens correspond one by one end together. -/
def Parting.never {exact : Prop} {report report' : Report} {T : Token → Token → Prop}
    (hkind : ∀ {t t'}, T t t' → t.kind = t'.kind)
    (hvalue : ∀ {t t'}, exact → T t t' → t.kind.hasValue = true → t.value = t'.value) :
    Parting (.oneByOne exact report report' T hkind hvalue) where
  parts := False
  closers _ := False
  skip {c c'} h := by
    obtain ⟨lines, hm, -⟩ := c.skipNewlines_moves
    obtain ⟨lines', hm', -⟩ := c'.skipNewlines_moves
    exact .inl ⟨⟨hm.isSealed h.1.1, hm'.isSealed h.1.2⟩, Cursor.forall₂_skipNewlines hkind h.2⟩

theorem forall₂_samePlace {R : Token → Token → Prop} {tokens tokens' : List Token}
    (h : List.Forall₂ R tokens tokens') :
    List.Forall₂ (fun t t' => R t t' ∧ SamePlace tokens tokens' t t') tokens tokens' := by
  rw [List.forall₂_iff_get] at h ⊢
  refine ⟨h.1, fun n hn hn' => ⟨h.2 n hn hn', n, ?_, ?_⟩⟩
  · exact List.getElem?_eq_getElem hn
  · exact List.getElem?_eq_getElem hn'

theorem compile_alike {source source' : String}
    (h : List.Forall₂ Token.Alike (tokenize source) (tokenize source')) (debug debug' : Bool) :
    SameResult source source' (compile debug source).result (compile debug' source').result := by
  let P := Pairing.oneByOne True (.ofSource source) (.ofSource source')
    (fun t t' => t.Alike t' ∧ SamePlace (tokenize source) (tokenize source') t t')
    (fun ht => ht.1.1) (fun _ ht => ht.1.2)
  have hstart : P.States (.ofSource source) (.ofSource source') := by
    refine .start ⟨⟨Cursor.sealed_ofTokens _, Cursor.sealed_ofTokens _⟩, ?_⟩
    rw [rest_tokenize, rest_tokenize]
    exact forall₂_samePlace h
  have hrun : P.Gen Eq (Gen.run nestingLimit (.ofSource source))
      (Gen.run nestingLimit (.ofSource source')) := by
    rcases Gen.course_run (.never _ _) (show 0 < nestingLimit by decide) hstart with
      hagree | ⟨hparts, -⟩
    · exact hagree
    · exact hparts.elim
  cases hs : Gen.run nestingLimit (.ofSource source) with
  | ok _ s =>
      rw [hs] at hrun
      obtain ⟨_, s', hs', -, hstates⟩ := hrun.of_ok
      obtain ⟨ms, ms', hms, hreport, hreport'⟩ := hstates.readings.reports
      have htypes : s.types = s'.types := hstates.types trivial
      have houtput : s.output = s'.output := hstates.output.same trivial
      rw [compile_of_ok hs, compile_of_ok hs']
      refine .ok (congrArg Output.document houtput) (congrArg Output.mainText houtput)
        (congrArg Output.functionsText houtput) (congrArg (·.names.toList) houtput) htypes ?_
      show List.Forall₂ _ s.report.warnings.toList s'.report.warnings.toList
      rw [hreport, hreport']
      show List.Forall₂ _ ((Report.ofSource source).remarkAll ms).warnings.toList
        ((Report.ofSource source').remarkAll ms').warnings.toList
      rw [Report.warnings_ofSource, Report.warnings_ofSource, List.forall₂_map_left_iff,
        List.forall₂_map_right_iff]
      refine hms.imp fun m m' hm => ⟨m.1.code, m.1.message, m.2, m'.2, hm.2.tokens.2, rfl, ?_⟩
      rw [hm.1]
  | error e s =>
      rw [hs] at hrun
      obtain ⟨e', s', hs', hfailure, -⟩ := hrun.of_error
      rw [compile_of_error hs, compile_of_error hs']
      cases hfailure with
      | fault hc ht => exact .error ht.2

/-! ## Words in other words -/

namespace Lexeme

/-- The same lexeme, or one spelling of a keyword for another. -/
inductive Respells : Lexeme → Lexeme → Prop where
  | same (l : Lexeme) : Respells l l
  | keyword {word word' : String} {kind : TokenKind} (h : (word, kind) ∈ keywords)
      (h' : (word', kind) ∈ keywords) : Respells (.word word.toList) (.word word'.toList)

/-- Texts that start with the same character, or with a word each. -/
def StartsAlike (text text' : List Char) : Prop :=
  text.head? = text'.head? ∨
    ∃ c ∈ text.head?, ∃ c' ∈ text'.head?, startsWord c = true ∧ startsWord c' = true

/-- Every spelling of a keyword is a word, has its own kind, and is not written. -/
theorem of_mem_keywords {word : String} {kind : TokenKind} (h : (word, kind) ∈ keywords) :
    (∃ c text, word.toList = c :: text ∧ startsWord c = true ∧ ∀ d ∈ text, inWord d = true) ∧
      wordKind word = kind ∧ kind.hasValue = false := by
  have hrows : ∀ row ∈ keywords, row.1.toList ≠ [] ∧ (row.1.toList.take 1).all startsWord = true ∧
      (row.1.toList.drop 1).all inWord = true ∧ wordKind row.1 = row.2 ∧
      row.2.hasValue = false := by
    decide +kernel
  obtain ⟨hne, hhead, htail, hkind, hvalue⟩ := hrows _ h
  refine ⟨?_, hkind, hvalue⟩
  obtain ⟨c, text, heq⟩ := List.exists_cons_of_ne_nil hne
  rw [heq] at hhead htail
  refine ⟨c, text, heq, ?_, List.all_eq_true.1 htail⟩
  simpa using hhead

/-- Letters and the underscore come behind the digits. -/
theorem isDigit_of_startsWord {c : Char} (h : startsWord c = true) : c.isDigit = false := by
  have hlast : c.isDigit = true → c.val ≤ 57 := by
    intro hd
    exact of_decide_eq_true (Bool.and_eq_true_iff.1 hd).2
  have hfirst : 57 < c.val := by
    rcases Bool.or_eq_true_iff.1 h with halpha | hline
    · rcases Bool.or_eq_true_iff.1 halpha with hupper | hlower
      · have hle : 65 ≤ c.val := (of_decide_eq_true hupper).1
        exact Nat.lt_of_lt_of_le (by decide) hle
      · have hle : 97 ≤ c.val := of_decide_eq_true (Bool.and_eq_true_iff.1 hlower).1
        exact Nat.lt_of_lt_of_le (by decide) hle
    · rw [eq_of_beq hline]
      decide
  cases hd : c.isDigit with
  | false => rfl
  | true => exact absurd (hlast hd) (Nat.not_le_of_lt hfirst)

/-- A character that starts a word starts no lexeme of another class. -/
theorem startsWord_excludes {c : Char} (h : startsWord c = true) :
    c ≠ '\n' ∧ isSpace c = false ∧ c ≠ '/' ∧ c ≠ '"' ∧ c.isDigit = false ∧ c ≠ '=' := by
  have hne : ∀ d : Char, startsWord d = false → c ≠ d := by
    rintro d hd rfl
    rw [hd] at h
    cases h
  refine ⟨hne _ (by decide), ?_, hne _ (by decide), hne _ (by decide), isDigit_of_startsWord h,
    hne _ (by decide)⟩
  simp [isSpace, hne ' ' (by decide), hne '\t' (by decide), hne '\r' (by decide)]

theorem StartsAlike.stops {text text' : List Char} (h : StartsAlike text text') {p : Char → Bool}
    (hp : ∀ c c', startsWord c = true → startsWord c' = true → p c = false → p c' = false)
    (hstop : ∀ c ∈ text.head?, p c = false) : ∀ c ∈ text'.head?, p c = false := by
  intro c' hc'
  rcases h with heq | ⟨c, hc, d, hd, hw, hw'⟩
  · exact hstop c' (heq ▸ hc')
  · obtain rfl := Option.mem_unique hd hc'
    exact hp c d hw hw' (hstop c hc)

theorem StartsAlike.stops_inWord {text text' : List Char} (h : StartsAlike text text')
    (hstop : ∀ c ∈ text.head?, inWord c = false) : ∀ c ∈ text'.head?, inWord c = false := by
  refine h.stops (fun c _ hw _ hend => ?_) hstop
  rw [inWord, hw, Bool.true_or] at hend
  cases hend

theorem StartsAlike.head?_iff {text text' : List Char} (h : StartsAlike text text') {c : Char}
    (hc : startsWord c = false) : text.head? = some c ↔ text'.head? = some c := by
  rcases h with heq | ⟨d, hd, d', hd', hw, hw'⟩
  · rw [heq]
  · constructor
    · intro heq
      obtain rfl := Option.mem_unique hd heq
      rw [hc] at hw
      cases hw
    · intro heq
      obtain rfl := Option.mem_unique hd' heq
      rw [hc] at hw'
      cases hw'

theorem takeWhile_append_of_stop {p : Char → Bool} {run rest : List Char}
    (hrun : ∀ c ∈ run, p c = true) (hrest : ∀ c ∈ rest.head?, p c = false) :
    (run ++ rest).takeWhile p = run ∧ (run ++ rest).dropWhile p = rest := by
  rw [List.takeWhile_append_of_pos hrun, List.dropWhile_append_of_pos hrun]
  cases rest with
  | nil => simp
  | cons d rest => simp [hrest d rfl]

/-- A body is closed by the quote that closed it, whatever is behind. -/
theorem splitBody_of_closed {text body rest : List Char} (h : splitBody text = (body, '"' :: rest))
    (rest' : List Char) : splitBody (body ++ '"' :: rest') = (body, '"' :: rest') := by
  fun_induction splitBody text generalizing body with
  | case1 => cases h
  | case2 => cases h; rfl
  | case3 text ih =>
      cases hbody : splitBody text with
      | mk inner behind =>
          rw [hbody] at h
          cases h
          rw [List.cons_append, List.cons_append, splitBody, ih hbody]
  | case4 c text hquote hescape ih =>
      cases hbody : splitBody text with
      | mk inner behind =>
          rw [hbody] at h
          cases h
          rw [List.cons_append, splitBody, ih hbody]
          · exact hquote
          · -- a quote right behind a backslash would have been behind it before
            intro tail hc htail
            cases inner with
            | nil =>
                have htext := splitBody_append text
                rw [hbody, List.nil_append] at htext
                exact hescape rest hc htext.symm
            | cons d inner =>
                obtain ⟨rfl, -⟩ := List.cons.inj htail
                have htext := splitBody_append text
                rw [hbody, List.cons_append] at htext
                exact hescape _ hc htext.symm

theorem splitLiteral_of_startsAlike {text rest : List Char}
    (h : StartsAlike (splitLiteral text).2 rest) :
    ∃ cs, (splitLiteral text).1.chars = '"' :: cs ∧
      splitLiteral (cs ++ rest) = ((splitLiteral text).1, rest) := by
  cases hbody : splitBody text with
  | mk body behind =>
      cases behind with
      | nil =>
          -- a literal that is not closed has nothing behind it
          have hlit : splitLiteral text = (.literal body false, []) := by
            rw [splitLiteral, hbody]
          rw [hlit] at h ⊢
          obtain rfl : rest = [] := by
            rcases h with hnil | ⟨c, hc, -⟩
            · exact List.head?_eq_none_iff.1 hnil.symm
            · cases hc
          have htext := splitBody_append text
          rw [hbody, List.append_nil] at htext
          obtain rfl : body = text := htext
          exact ⟨body, by simp [chars], by rw [List.append_nil, hlit]⟩
      | cons d behind =>
          have hlit : splitLiteral text = (.literal body true, behind) := by
            rw [splitLiteral, hbody]
          obtain rfl : d = '"' := by
            rcases splitBody_rest text with hnil | ⟨behind', hcons⟩
            · rw [hbody] at hnil; cases hnil
            · rw [hbody] at hcons; exact (List.cons.inj hcons).1
          rw [hlit]
          refine ⟨body ++ ['"'], rfl, ?_⟩
          rw [List.append_assoc, List.singleton_append, splitLiteral, splitBody_of_closed hbody]

theorem splitSymbol_single (c : Char) : ∃ l : Lexeme, l.chars = [c] ∧
    ∀ text, (∀ d ∈ text.head?, symbolKind? [c, d] = none) → splitSymbol c text = (l, text) := by
  cases hc : symbolKind? [c] with
  | none =>
      refine ⟨.illegal c, rfl, fun text htext => ?_⟩
      cases text with
      | nil => simp only [splitSymbol, hc]
      | cons d text => simp only [splitSymbol, htext d rfl, hc]
  | some kind =>
      refine ⟨.symbol [c] kind, rfl, fun text htext => ?_⟩
      cases text with
      | nil => simp only [splitSymbol, hc]
      | cons d text => simp only [splitSymbol, htext d rfl, hc]

theorem splitSymbol_of_startsAlike {c : Char} {text rest : List Char}
    (h : StartsAlike (splitSymbol c text).2 rest) :
    ∃ cs, (splitSymbol c text).1.chars = c :: cs ∧
      (∀ d, startsWord d = false → (text.head? = some d ↔ (cs ++ rest).head? = some d)) ∧
      splitSymbol c (cs ++ rest) = ((splitSymbol c text).1, rest) := by
  obtain ⟨l, hl, single⟩ := splitSymbol_single c
  by_cases hpair : ∃ d ∈ text.head?, (symbolKind? [c, d]).isSome = true
  · obtain ⟨d, hd, hkind⟩ := hpair
    obtain ⟨text, rfl⟩ := List.head?_eq_some_iff.1 hd
    obtain ⟨kind, hkind⟩ := Option.isSome_iff_exists.1 hkind
    have hsymbol : ∀ text, splitSymbol c (d :: text) = (.symbol [c, d] kind, text) := by
      intro text
      rw [splitSymbol, hkind]
    rw [hsymbol]
    exact ⟨[d], rfl, fun _ _ => Iff.rfl, hsymbol rest⟩
  · have hnone : ∀ d ∈ text.head?, symbolKind? [c, d] = none := by
      intro d hd
      by_contra hkind
      exact hpair ⟨d, hd, Option.isSome_iff_ne_none.2 hkind⟩
    rw [single text hnone] at h ⊢
    have hnone' : ∀ d ∈ rest.head?, symbolKind? [c, d] = none := by
      intro d hd
      by_contra hkind
      have hsome := Option.isSome_iff_ne_none.2 hkind
      obtain ⟨-, rfl⟩ := (symbolKind?_pair c d).1 hsome
      exact hkind (hnone '=' ((h.head?_iff (by decide)).2 hd))
    exact ⟨[], hl, fun d hd => h.head?_iff hd, single rest hnone'⟩

theorem split_startsWord {c : Char} (hw : startsWord c = true) (text : List Char) :
    split c text = (.word (c :: text.takeWhile inWord), text.dropWhile inWord) := by
  obtain ⟨hn, hb, hs, hq, hd, -⟩ := startsWord_excludes hw
  simp [split, hn, hb, hs, hq, hd, hw]

/-- The first lexeme stays when the text behind it is changed to one that starts
alike. -/
theorem split_of_startsAlike {c : Char} {text rest : List Char}
    (h : StartsAlike (split c text).2 rest) :
    ∃ cs, (split c text).1.chars = c :: cs ∧ split c (cs ++ rest) = ((split c text).1, rest) := by
  by_cases hn : c = '\n'
  · have hsplit : ∀ text, split c text = (.newline, text) := fun text => by simp [split, hn]
    exact ⟨[], by rw [hsplit, hn]; rfl, by rw [hsplit, hsplit]; rfl⟩
  by_cases hb : isSpace c = true
  · have hsplit : ∀ text, split c text =
        (.blank (c :: text.takeWhile isSpace), text.dropWhile isSpace) := fun text => by
      simp [split, hn, hb]
    rw [hsplit] at h ⊢
    have hstop := h.stops (p := isSpace) (fun _ _ _ hw _ => (startsWord_excludes hw).2.1)
      (head?_dropWhile text)
    obtain ⟨htake, hdrop⟩ := takeWhile_append_of_stop (mem_takeWhile text) hstop
    exact ⟨_, rfl, by rw [hsplit, htake, hdrop]⟩
  by_cases hs : c = '/' ∧ text.head? = some '/'
  · obtain ⟨rfl, hhead⟩ := hs
    obtain ⟨text, rfl⟩ := List.head?_eq_some_iff.1 hhead
    have hsplit : ∀ text, split '/' ('/' :: text) =
        (.comment (text.takeWhile (· ≠ '\n')), text.dropWhile (· ≠ '\n')) := fun text => by
      simp [split, isSpace]
    rw [hsplit] at h ⊢
    have hstop := h.stops (p := (· ≠ '\n'))
      (fun c _ hw _ hend => absurd (by simpa using hend) (startsWord_excludes hw).1)
      (head?_dropWhile text)
    obtain ⟨htake, hdrop⟩ := takeWhile_append_of_stop (mem_takeWhile text) hstop
    exact ⟨'/' :: text.takeWhile (· ≠ '\n'), rfl, by rw [List.cons_append, hsplit, htake, hdrop]⟩
  by_cases hq : c = '"'
  · subst hq
    have hsplit : ∀ text, split '"' text = splitLiteral text := fun text => by
      simp [split, isSpace]
    rw [hsplit] at h ⊢
    obtain ⟨cs, hchars, hlit⟩ := splitLiteral_of_startsAlike h
    exact ⟨cs, hchars, by rw [hsplit, hlit]⟩
  by_cases hd : c.isDigit = true
  · have hslash : c ≠ '/' := by rintro rfl; cases hd
    have hsplit : ∀ text, split c text =
        (.number (c :: text.takeWhile Char.isDigit), text.dropWhile Char.isDigit) := fun text => by
      simp [split, hn, hb, hslash, hq, hd]
    rw [hsplit] at h ⊢
    have hstop := h.stops (p := Char.isDigit)
      (fun _ _ _ hw _ => (startsWord_excludes hw).2.2.2.2.1) (head?_dropWhile text)
    obtain ⟨htake, hdrop⟩ := takeWhile_append_of_stop (mem_takeWhile text) hstop
    exact ⟨_, rfl, by rw [hsplit, htake, hdrop]⟩
  by_cases hw : startsWord c = true
  · have hsplit : ∀ text, split c text =
        (.word (c :: text.takeWhile inWord), text.dropWhile inWord) := split_startsWord hw
    rw [hsplit] at h ⊢
    have hstop := h.stops_inWord (head?_dropWhile text)
    obtain ⟨htake, hdrop⟩ := takeWhile_append_of_stop (mem_takeWhile text) hstop
    exact ⟨_, rfl, by rw [hsplit, htake, hdrop]⟩
  · have hsplit : ∀ text, ¬ (c = '/' ∧ text.head? = some '/') →
        split c text = splitSymbol c text := fun text hs => by
      simp [split, hn, hb, hs, hq, hd, hw]
    rw [hsplit text hs] at h ⊢
    obtain ⟨cs, hchars, hhead, hsymbol⟩ := splitSymbol_of_startsAlike h
    refine ⟨cs, hchars, ?_⟩
    rw [hsplit _ fun hslash => hs ⟨hslash.1, (hhead '/' (by decide)).2 hslash.2⟩, hsymbol]

theorem startsAlike_of_respells {text : List Char} {ls : List Lexeme}
    (h : List.Forall₂ Respells (lexemes text) ls) : StartsAlike text (ls.flatMap chars) := by
  cases text with
  | nil =>
      rw [lexemes] at h
      cases h
      exact .inl rfl
  | cons c text =>
      rw [lexemes] at h
      generalize hl : (split c text).1 = l at h
      have hchars := split_chars c text
      rw [hl] at hchars
      cases h with
      | cons hfirst hrest =>
          cases hfirst with
          | same =>
              refine .inl ?_
              have hpos := split_nonempty c text
              rw [hl] at hpos
              obtain ⟨d, ds, hd⟩ := List.exists_cons_of_length_pos hpos
              rw [← hchars, List.flatMap_cons, hd]
              rfl
          | keyword hw hw' =>
              obtain ⟨⟨d, ds, hd, hstarts, -⟩, -⟩ := of_mem_keywords hw
              obtain ⟨⟨d', ds', hd', hstarts', -⟩, -⟩ := of_mem_keywords hw'
              rw [chars, hd] at hchars
              exact .inr ⟨d, by rw [← hchars]; rfl, d', by simp [chars, hd'], hstarts, hstarts'⟩

/-- The lexemes of a text that is respelled are the ones it was put together
from. -/
theorem lexemes_of_respells {text : List Char} {ls : List Lexeme}
    (h : List.Forall₂ Respells (lexemes text) ls) : lexemes (ls.flatMap chars) = ls := by
  fun_induction lexemes text generalizing ls with
  | case1 =>
      cases h
      rw [List.flatMap_nil, lexemes]
  | case2 c text ih =>
      generalize hl : (split c text).1 = l at h
      cases h with
      | @cons _ l' _ ls hfirst hrest =>
          have hstarts := startsAlike_of_respells hrest
          have hfound : ∃ c' cs, l'.chars = c' :: cs ∧
              split c' (cs ++ ls.flatMap chars) = (l', ls.flatMap chars) := by
            cases hfirst with
            | same =>
                obtain ⟨cs, hcs, hsplit⟩ := split_of_startsAlike hstarts
                rw [hl] at hcs hsplit
                exact ⟨c, cs, hcs, hsplit⟩
            | keyword hw hw' =>
                obtain ⟨⟨c', cs, hc', hstarts', hin⟩, -⟩ := of_mem_keywords hw'
                -- where the one word ended, the other ends
                have hstop : ∀ d ∈ (split c text).2.head?, inWord d = false := by
                  obtain ⟨⟨d, ds, hd, hw, -⟩, -⟩ := of_mem_keywords hw
                  have hchars := split_chars c text
                  rw [hl, chars, hd] at hchars
                  obtain rfl : d = c := (List.cons.inj hchars).1
                  rw [split_startsWord hw]
                  exact head?_dropWhile text
                obtain ⟨htake, hdrop⟩ := takeWhile_append_of_stop hin (hstarts.stops_inWord hstop)
                refine ⟨c', cs, hc', ?_⟩
                rw [split_startsWord hstarts', htake, hdrop, hc']
          obtain ⟨c', cs, hcs, hsplit⟩ := hfound
          rw [List.flatMap_cons, hcs, List.cons_append, lexemes, hsplit]
          exact congrArg (l' :: ·) (ih hrest)

end Lexeme

/-- A source with some of its keywords spelled otherwise. -/
def Respelled (source source' : String) : Prop :=
  ∃ ls, List.Forall₂ Lexeme.Respells (lexemes source.toList) ls ∧
    source'.toList = ls.flatMap Lexeme.chars

theorem placeTokens_of_respells {ls ls' : List Lexeme} (h : List.Forall₂ Lexeme.Respells ls ls')
    (pos pos' : Position) :
    List.Forall₂ Token.Alike (placeTokens pos ls) (placeTokens pos' ls') := by
  induction h generalizing pos pos' with
  | nil => exact .cons ⟨rfl, fun _ => rfl⟩ .nil
  | @cons l l' ls ls' hfirst hrest ih =>
      cases hfirst with
      | same =>
          unfold placeTokens
          split
          · exact .cons ⟨rfl, fun _ => rfl⟩ (ih _ _)
          · exact ih _ _
      | @keyword word word' kind hw hw' =>
          obtain ⟨-, hkind, hvalue⟩ := Lexeme.of_mem_keywords hw
          obtain ⟨-, hkind', -⟩ := Lexeme.of_mem_keywords hw'
          refine .cons ⟨?_, fun hwritten => ?_⟩ (ih _ _)
          · show wordKind (String.ofList word.toList) = wordKind (String.ofList word'.toList)
            rw [String.ofList_toList, String.ofList_toList, hkind, hkind']
          · change (wordKind (String.ofList word.toList)).hasValue = true at hwritten
            rw [String.ofList_toList, hkind, hvalue] at hwritten
            cases hwritten

theorem Respelled.alike {source source' : String} (h : Respelled source source') :
    List.Forall₂ Token.Alike (tokenize source) (tokenize source') := by
  obtain ⟨ls, hls, htext⟩ := h
  unfold tokenize
  rw [htext, Lexeme.lexemes_of_respells hls]
  exact placeTokens_of_respells hls _ _

/-- Sources with the same kinds of tokens, and the same values of literals and
names, are compiled to the same document with the same warnings, or both fail,
and whatever is reported is reported about the same token of both. A source in
which keywords are spelled otherwise is such a source. -/
theorem spelling_is_invisible (source source' : String) :
    (List.Forall₂ Token.Alike (tokenize source) (tokenize source') → ∀ debug debug',
      SameResult source source' (compile debug source).result (compile debug' source').result) ∧
    (Respelled source source' →
      List.Forall₂ Token.Alike (tokenize source) (tokenize source')) :=
  ⟨compile_alike, Respelled.alike⟩

/-- A branch in two spellings. The word in the comment is not a keyword. -/
theorem spelling_is_invisible_branch :
    Respelled "jika (x) \x7b // jika\n\x7d\n" "if (x) \x7b // jika\n\x7d\n" ∧
      (compile false "jika (x) \x7b // jika\n\x7d\n").result.isOk = true ∧
      SameResult "jika (x) \x7b // jika\n\x7d\n" "if (x) \x7b // jika\n\x7d\n"
        (compile false "jika (x) \x7b // jika\n\x7d\n").result
        (compile true "if (x) \x7b // jika\n\x7d\n").result := by
  have hlexemes : ∃ rest, lexemes "jika (x) \x7b // jika\n\x7d\n".toList =
      .word "jika".toList :: rest ∧
      "if (x) \x7b // jika\n\x7d\n".toList =
        (.word "if".toList :: rest).flatMap Lexeme.chars := by
    refine ⟨(lexemes "jika (x) \x7b // jika\n\x7d\n".toList).tail, ?_, ?_⟩ <;> decide +kernel
  obtain ⟨rest, hls, htext⟩ := hlexemes
  have hjika : ("jika", TokenKind.keyword .ifK) ∈ keywords := by decide +kernel
  have hif : ("if", TokenKind.keyword .ifK) ∈ keywords := by decide +kernel
  have hrespelled : Respelled "jika (x) \x7b // jika\n\x7d\n" "if (x) \x7b // jika\n\x7d\n" := by
    refine ⟨.word "if".toList :: rest, ?_, htext⟩
    rw [hls]
    exact .cons (.keyword hjika hif) (List.forall₂_same.2 fun l _ => .same l)
  refine ⟨hrespelled, by decide +kernel, ?_⟩
  exact (spelling_is_invisible _ _).1 ((spelling_is_invisible _ _).2 hrespelled) false true

end StageZero
