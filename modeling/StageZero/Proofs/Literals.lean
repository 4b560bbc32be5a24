import StageZero.Proofs.Printing

/-!
# String literals

A string passes through the compiler as a value. The scanner takes the quotes
off and resolves the escaped ones inside, the generator puts both back, and
nothing else is touched. Since every quote in the body of a literal stands
behind a backslash, what is put back is what was taken off: literals are copied
as they were written, and one that was never closed is closed.

Whether the copy is a literal of C is another question. The scanner looks at the
one backslash before a quote, and C reads backslashes in pairs. So what decides
is how many of them stand in a row: a value is cut at its runs of backslashes
here, and `runs_induction` goes from one run to the next.
-/

namespace StageZero

open Lexeme

/-! ## The copy -/

/-- The lexeme of a string has its closing quote: it ends in a quote that is not
the opening one and that no backslash escapes. -/
def Closed (lexeme : List Char) : Prop :=
  ∃ body, lexeme = '"' :: (body ++ ['"']) ∧ body.getLast? ≠ some '\\'

theorem toList_cString (value : String) :
    (cString value).toList = '"' :: (escapeQuotes value.toList ++ ['"']) := by
  simp [cString]

theorem escapeQuotes_quote (text : List Char) :
    escapeQuotes ('"' :: text) = '\\' :: '"' :: escapeQuotes text := by
  simp [escapeQuotes]

/-- Where every quote is escaped, resolving the escapes loses nothing. -/
theorem escapeQuotes_unescape {body : List Char} (h : QuotesEscaped body) :
    escapeQuotes (unescape body) = body := by
  fun_induction unescape body with
  | case1 body ih =>
      rcases h.cases with ⟨-, body', hbody, h⟩ | ⟨-, hne, -⟩
      · cases hbody
        rw [escapeQuotes_quote, ih h]
      · exact absurd rfl (hne rfl)
  | case2 c body hpair ih =>
      rcases h.cases with ⟨rfl, body', rfl, -⟩ | ⟨hc, -, h⟩
      · exact absurd rfl (hpair body' rfl)
      · rw [escapeQuotes_cons hc, ih h]
  | case3 => rfl

/-- One more quote behind a backslash is an escaped one. -/
theorem QuotesEscaped.concat {body : List Char} (h : QuotesEscaped body)
    (hlast : body.getLast? = some '\\') : QuotesEscaped (body ++ ['"']) := by
  intro before after heq
  rcases List.append_eq_append_iff.1 heq with ⟨middle, rfl, hmiddle⟩ | ⟨middle, hbody, hmiddle⟩
  · rcases List.cons_eq_append_iff.1 hmiddle with ⟨rfl, -⟩ | ⟨_, rfl, hnil⟩
    · rwa [List.append_nil]
    · simp at hnil
  · cases middle with
    | nil => rwa [← List.append_nil before, ← hbody]
    | cons c middle =>
        rw [List.cons_append, List.cons.injEq] at hmiddle
        obtain ⟨rfl, -⟩ := hmiddle
        exact h before middle hbody

theorem wordKind_ne_string (word : String) : wordKind word ≠ .string := by
  have hrows : ∀ row ∈ keywords, row.2 ≠ .string := by decide
  rcases wordKind_cases word with hmem | ⟨hkind, -⟩
  · exact hrows _ hmem
  · rw [hkind]
    simp

theorem symbolKind?_ne_string (text : List Char) : symbolKind? text ≠ some .string := by
  have hrows : ∀ row ∈ symbols, row.2 ≠ .string := by decide
  intro h
  exact hrows _ (mem_symbols_of_symbolKind? h) rfl

/-- A string's lexeme is closed and copied as it is, or it runs to the end of the
source and is copied with the quote that it lacks. -/
theorem Scans.cString_eq {lexeme rest : List Char} {value : String}
    (h : Scans lexeme rest .string value) :
    (Closed lexeme ∧ cString value = String.ofList lexeme) ∨
      (¬ Closed lexeme ∧ rest = [] ∧ cString value = String.ofList (lexeme ++ ['"'])) := by
  have hcopy : ∀ {body : List Char}, QuotesEscaped body →
      cString (String.ofList (unescape body)) = String.ofList ('"' :: (body ++ ['"'])) := by
    intro body hq
    rw [← String.ofList_toList (s := cString _), toList_cString, String.toList_ofList,
      escapeQuotes_unescape hq]
  generalize hkind : TokenKind.string = kind at h
  cases h with
  | @closed body rest hq hend => exact .inl ⟨⟨body, rfl, hend⟩, hcopy hq⟩
  | @unclosed body hq =>
      refine .inr ⟨?_, rfl, hcopy hq⟩
      rintro ⟨body', hbody, hlast⟩
      obtain rfl := (List.cons.inj hbody).2
      exact hlast (hq body' [] rfl)
  | word hc ht hmax => exact absurd hkind.symm (wordKind_ne_string _)
  | pair rest hc hk => exact absurd (hkind ▸ hk) (symbolKind?_ne_string _)
  | symbol hp hs hk => exact absurd (hkind ▸ hk) (symbolKind?_ne_string _)
  | _ => cases hkind

/-- A source that is one lexeme is one token. -/
theorem tokenize_of_scans {source value : String} {kind : TokenKind}
    (h : Scans source.toList [] kind value) :
    ∃ e, tokenize source = [⟨kind, value, .start⟩, .eof e] := by
  obtain ⟨l, hl, htok⟩ := h.lexemes_append
  rw [List.append_nil, lexemes] at hl
  refine ⟨Position.after .start l.chars, ?_⟩
  rw [tokenize, hl, placeTokens, htok]
  rfl

/-- Every string token of a source has its lexeme where it is placed. If the lexeme
has its closing quote, the literal of the token's value is that lexeme, and if not,
nothing stands behind it and the literal has one quote more. And the literal of a
string is read back as that string, the one token from the beginning on, if the
string does not end in a backslash, and not otherwise. -/
theorem literals_are_copied (source value : String) :
    (∀ t ∈ tokenize source, t.kind = .string → ∃ before lexeme after,
      source.toList = before ++ lexeme ++ after ∧ t.pos = placeAfter before ∧
      Scans lexeme after .string t.value ∧
      (Closed lexeme → cString t.value = String.ofList lexeme) ∧
      (¬ Closed lexeme → after = [] ∧ cString t.value = String.ofList (lexeme ++ ['"']))) ∧
    ((∃ pos e, pos.index = 0 ∧ tokenize (cString value) = [⟨.string, value, pos⟩, .eof e]) ↔
      value.toList.getLast? ≠ some '\\') := by
  refine ⟨fun t ht hk => ?_, ?_, fun hlast => ?_⟩
  · have htiled : Tiled [] source.toList (tokenize source) := tiled_lexemes [] source.toList
    obtain ⟨before, lexeme, after, htext, -, hpos, hscans⟩ :=
      htiled.owned t ht (by rw [hk]; simp)
    rw [hk] at hscans
    refine ⟨before, lexeme, after, htext, hpos, hscans, ?_⟩
    rcases hscans.cString_eq with ⟨hclosed, heq⟩ | ⟨hopen, hrest, heq⟩
    · exact ⟨fun _ => heq, fun hopen => absurd hclosed hopen⟩
    · exact ⟨fun hclosed => absurd hclosed hopen, fun _ => ⟨hrest, heq⟩⟩
  · rintro ⟨pos, e, -, htok⟩ hlast
    -- the closing quote is taken for an escaped one, and is a part of what is read
    have hq : QuotesEscaped (escapeQuotes value.toList ++ ['"']) :=
      (quotesEscaped_escapeQuotes value.toList).concat (by rwa [getLast?_escapeQuotes])
    have hscans := Scans.unclosed hq
    rw [← toList_cString] at hscans
    obtain ⟨e', htok'⟩ := tokenize_of_scans hscans
    have hvalue : value = String.ofList (unescape (escapeQuotes value.toList ++ ['"'])) := by
      rw [htok] at htok'
      exact congrArg Token.value (List.cons.inj htok').1
    have hbody := escapeQuotes_unescape hq
    rw [← String.toList_ofList (l := unescape _), ← hvalue] at hbody
    simpa using congrArg List.length hbody
  · obtain ⟨e, htok⟩ := tokenize_of_scans (scans_cString hlast [])
    exact ⟨.start, e, rfl, htok⟩

/-- A literal with an escaped quote, and one that is never closed. -/
def looseQuotes : String :=
  "\"a\\\"b\" + \"c\\\""

theorem literals_are_copied_loose :
    ∃ t ∈ tokenize looseQuotes, t.kind = .string ∧ t.value = "c\"" ∧
      (∃ before lexeme after, looseQuotes.toList = before ++ lexeme ++ after ∧
        t.pos = placeAfter before ∧ Scans lexeme after .string t.value ∧
        (Closed lexeme → cString t.value = String.ofList lexeme) ∧
        (¬ Closed lexeme → after = [] ∧ cString t.value = String.ofList (lexeme ++ ['"']))) ∧
      ¬ ∃ pos e, pos.index = 0 ∧ tokenize (cString "c\\") = [⟨.string, "c\\", pos⟩, .eof e] := by
  have hmem : (⟨.string, "c\"", ⟨9, 1, 10⟩⟩ : Token) ∈ tokenize looseQuotes := by decide +kernel
  obtain ⟨hcopied, hread⟩ := literals_are_copied looseQuotes "c\\"
  exact ⟨_, hmem, rfl, rfl, hcopied _ hmem rfl, fun h => hread.1 h (by decide)⟩

/-! ## Runs of backslashes -/

/-- A text is a run of backslashes, or a run and another character with a text
behind it. -/
theorem runs_induction {motive : List Char → Prop}
    (run : ∀ n, motive (List.replicate n '\\'))
    (step : ∀ n c rest, c ≠ '\\' → motive rest → motive (List.replicate n '\\' ++ c :: rest))
    (text : List Char) : motive text := by
  -- the run before the text is what has been passed of the present one
  suffices h : ∀ n, motive (List.replicate n '\\' ++ text) from h 0
  induction text with
  | nil =>
      intro n
      rw [List.append_nil]
      exact run n
  | cons c rest ih =>
      intro n
      by_cases hc : c = '\\'
      · have hrun : List.replicate n '\\' ++ c :: rest = List.replicate (n + 1) '\\' ++ rest := by
          rw [hc, List.replicate_succ']
          simp
        rw [hrun]
        exact ih (n + 1)
      · exact step n c rest hc (ih 0)

theorem escapeQuotes_append (a b : List Char) :
    escapeQuotes (a ++ b) = escapeQuotes a ++ escapeQuotes b :=
  List.flatMap_append

theorem escapeQuotes_run (n : Nat) :
    escapeQuotes (List.replicate n '\\') = List.replicate n '\\' := by
  induction n with
  | zero => rfl
  | succ n ih => rw [List.replicate_succ, escapeQuotes_cons (by decide), ih]

/-! ## What C reads -/

/-- What C reads between the quotes of a literal: characters that stand for
themselves, and backslashes with the character behind them. -/
inductive CItems : List Char → Prop where
  | nil : CItems []
  | plain {c : Char} {rest : List Char} (hq : c ≠ '"') (hb : c ≠ '\\') (hn : c ≠ '\n')
      (h : CItems rest) : CItems (c :: rest)
  | escape {c : Char} {rest : List Char} (hn : c ≠ '\n') (h : CItems rest) :
      CItems ('\\' :: c :: rest)

/-- A text is one string literal of C. -/
def IsCLiteral (text : List Char) : Prop :=
  ∃ body, text = '"' :: (body ++ ['"']) ∧ CItems body

theorem cItems_plain {c : Char} (hc : c ≠ '\\') (rest : List Char) :
    CItems (c :: rest) ↔ c ≠ '"' ∧ c ≠ '\n' ∧ CItems rest := by
  constructor
  · intro h
    cases h with
    | plain hq hb hn h => exact ⟨hq, hn, h⟩
    | escape hn h => exact absurd rfl hc
  · rintro ⟨hq, hn, h⟩
    exact .plain hq hc hn h

theorem cItems_escape (c : Char) (rest : List Char) :
    CItems ('\\' :: c :: rest) ↔ c ≠ '\n' ∧ CItems rest := by
  constructor
  · intro h
    cases h with
    | plain hq hb hn h => exact absurd rfl hb
    | escape hn h => exact ⟨hn, h⟩
  · rintro ⟨hn, h⟩
    exact .escape hn h

theorem cItems_run : (n : Nat) → (CItems (List.replicate n '\\') ↔ n % 2 = 0)
  | 0 => by simp [CItems.nil]
  | 1 => by
      refine ⟨fun h => ?_, by simp⟩
      cases h with
      | plain hq hb hn h => exact absurd rfl hb
  | n + 2 => by
      rw [List.replicate_succ, List.replicate_succ, cItems_escape, cItems_run n]
      simp

/-- Behind an even run a character stands for itself, and behind an odd one it is
escaped. -/
theorem cItems_step {c : Char} (hc : c ≠ '\\') (rest : List Char) : (n : Nat) →
    (CItems (List.replicate n '\\' ++ c :: rest) ↔
      c ≠ '\n' ∧ (c = '"' → n % 2 = 1) ∧ CItems rest)
  | 0 => by
      rw [List.replicate_zero, List.nil_append, cItems_plain hc]
      simp only [Nat.zero_mod]
      tauto
  | 1 => by
      rw [List.replicate_one, List.singleton_append, cItems_escape]
      simp
  | n + 2 => by
      rw [List.replicate_succ, List.replicate_succ, List.cons_append, List.cons_append,
        cItems_escape, cItems_step hc rest n]
      simp

/-! ## Which literals C reads -/

/-- Every run of backslashes that goes up to a quote or up to the end, with no
backslash before it, has an even length. -/
def RunsEven (text : List Char) : Prop :=
  ∀ before n after, text = before ++ List.replicate n '\\' ++ after →
    before.getLast? ≠ some '\\' → after = [] ∨ after.head? = some '"' → n % 2 = 0

/-- Nothing but the empty text stands before a run that cannot be longer and inside
another. -/
theorem eq_nil_of_run {n : Nat} {before after : List Char}
    (h : List.replicate n '\\' = before ++ after) (hlast : before.getLast? ≠ some '\\') :
    before = [] := by
  by_contra hne
  refine hlast ?_
  rw [List.getLast?_eq_some_getLast hne]
  have hmem : before.getLast hne ∈ List.replicate n '\\' := by
    rw [h]
    exact List.mem_append_left _ (List.getLast_mem hne)
  rw [List.eq_of_mem_replicate hmem]

/-- A run is as long as the backslashes reach. -/
theorem run_unique {m n : Nat} {a b : List Char} (ha : a.head? ≠ some '\\')
    (hb : b.head? ≠ some '\\')
    (h : List.replicate m '\\' ++ a = List.replicate n '\\' ++ b) : m = n ∧ a = b := by
  induction m generalizing n with
  | zero =>
      cases n with
      | zero => exact ⟨rfl, h⟩
      | succ n => exact absurd (by rw [← List.nil_append a]; exact congrArg List.head? h) ha
  | succ m ih =>
      cases n with
      | zero => exact absurd (by rw [← List.nil_append b]; exact congrArg List.head? h.symm) hb
      | succ n =>
          obtain ⟨rfl, rfl⟩ := ih (List.cons.inj h).2
          exact ⟨rfl, rfl⟩

theorem head?_ne_of_end {after : List Char} (h : after = [] ∨ after.head? = some '"') :
    after.head? ≠ some '\\' := by
  rcases h with rfl | h
  · simp
  · rw [h]
    decide

theorem runsEven_run (n : Nat) : RunsEven (List.replicate n '\\') ↔ n % 2 = 0 := by
  constructor
  · intro h
    exact h [] n [] (by simp) (by simp) (.inl rfl)
  · intro hn before m after heq hlast hend
    rw [List.append_assoc] at heq
    obtain rfl := eq_nil_of_run heq hlast
    obtain ⟨rfl, -⟩ :=
      run_unique (a := []) (by simp) (head?_ne_of_end hend) (by simpa using heq)
    exact hn

/-- Runs end at every other character, and only the run before a quote counts. -/
theorem runsEven_step {c : Char} (hc : c ≠ '\\') (n : Nat) (rest : List Char) :
    RunsEven (List.replicate n '\\' ++ c :: rest) ↔ (c = '"' → n % 2 = 0) ∧ RunsEven rest := by
  constructor
  · intro h
    refine ⟨fun hq => h [] n (c :: rest) (by simp) (by simp) (.inr (by simp [hq])), ?_⟩
    intro before m after heq hlast hend
    refine h (List.replicate n '\\' ++ c :: before) m after (by simp [heq]) ?_ hend
    rw [List.getLast?_append, List.getLast?_cons]
    cases hbefore : before.getLast? with
    | none => simpa using hc
    | some d => simpa [hbefore] using hlast
  · rintro ⟨hn, hrest⟩ before m after heq hlast hend
    have hfirst : ∀ middle, List.replicate n '\\' = before ++ middle →
        List.replicate m '\\' ++ after = middle ++ c :: rest → m % 2 = 0 := by
      intro middle hrun hmiddle
      obtain rfl := eq_nil_of_run hrun hlast
      rw [← List.nil_append middle, ← hrun] at hmiddle
      obtain ⟨rfl, rfl⟩ := run_unique (head?_ne_of_end hend) (by simpa using hc) hmiddle
      exact hn (by simpa using hend)
    rw [List.append_assoc] at heq
    rcases List.append_eq_append_iff.1 heq with ⟨middle, rfl, hmiddle⟩ | ⟨middle, hrun, hmiddle⟩
    · cases middle with
      | nil => exact hfirst [] (by simp) hmiddle.symm
      | cons d middle =>
          rw [List.cons_append, List.cons.injEq] at hmiddle
          obtain ⟨rfl, hmiddle⟩ := hmiddle
          refine hrest middle m after (by rw [hmiddle, List.append_assoc]) (fun hl => hlast ?_) hend
          rw [List.getLast?_append, List.getLast?_cons, hl]
          rfl
    · exact hfirst middle hrun hmiddle

theorem cItems_escapeQuotes (text : List Char) :
    CItems (escapeQuotes text) ↔ '\n' ∉ text ∧ RunsEven text := by
  induction text using runs_induction with
  | run n =>
      rw [escapeQuotes_run, cItems_run, runsEven_run]
      simp
  | step n c rest hc ih =>
      have hlines : '\n' ∉ List.replicate n '\\' ++ c :: rest ↔ c ≠ '\n' ∧ '\n' ∉ rest := by
        simp [eq_comm]
      rw [escapeQuotes_append, escapeQuotes_run, runsEven_step hc, hlines]
      by_cases hq : c = '"'
      · -- the backslash before the quote makes the run longer by one
        subst hq
        have hrun : List.replicate n '\\' ++ escapeQuotes ('"' :: rest) =
            List.replicate (n + 1) '\\' ++ '"' :: escapeQuotes rest := by
          rw [escapeQuotes_quote, List.replicate_succ']
          simp
        have hparity : (n + 1) % 2 = 1 ↔ n % 2 = 0 := by omega
        rw [hrun, cItems_step hc, ih, hparity]
        tauto
      · rw [escapeQuotes_cons hq, cItems_step hc, ih]
        tauto

/-- The literal of a string is one literal of C if the string has no line break, and
every run of backslashes in it that stands before a quote or at the end is even, and
not otherwise. -/
theorem literals_are_valid (value : String) :
    IsCLiteral (cString value).toList ↔ '\n' ∉ value.toList ∧ RunsEven value.toList := by
  rw [← cItems_escapeQuotes, toList_cString]
  constructor
  · rintro ⟨body, hbody, h⟩
    obtain rfl := List.append_cancel_right (List.cons.inj hbody).2
    exact h
  · intro h
    exact ⟨_, rfl, h⟩

end StageZero
