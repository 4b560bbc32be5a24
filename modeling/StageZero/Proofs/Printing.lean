import StageZero.Fragment
import StageZero.Proofs.Respelling

/-!
# Printed tokens are read back

Tokens can be written down again: strings with their quotes, line breaks as line
breaks, everything else as its value, with a space between each two. Scanning
what is written gives the tokens back, whatever stands next to what.

Two facts carry this. `Scans` describes lexemes without saying how they are
found, and it leaves the scanner no choice: a lexeme that it admits in front of a
text is the one that is cut off. And a space behind a token is never a part of
it, no more than a parenthesis or a comma, so that every printed token is
admitted in front of what comes next. The values for which this holds are all
that a kind can have, but for strings that end in a backslash, where the closing
quote would be taken for an escaped one.
-/

namespace StageZero

/-! ## Quotes -/

theorem QuotesEscaped.nil : QuotesEscaped [] := by
  intro before after h
  simp at h

theorem QuotesEscaped.cons {c : Char} {text : List Char} (hc : c ≠ '"') (h : QuotesEscaped text) :
    QuotesEscaped (c :: text) := by
  intro before after heq
  cases before with
  | nil =>
      rw [List.nil_append, List.cons.injEq] at heq
      exact absurd heq.1 hc
  | cons d before =>
      rw [List.cons_append, List.cons.injEq] at heq
      rw [List.getLast?_cons, h before after heq.2]
      rfl

theorem QuotesEscaped.escaped {text : List Char} (h : QuotesEscaped text) :
    QuotesEscaped ('\\' :: '"' :: text) := by
  intro before after heq
  match before with
  | [] => simp at heq
  | [c] =>
      rw [List.singleton_append, List.cons.injEq] at heq
      rw [← heq.1]
      rfl
  | c :: d :: before =>
      rw [List.cons_append, List.cons_append, List.cons.injEq, List.cons.injEq] at heq
      rw [List.getLast?_cons_cons, List.getLast?_cons, h before after heq.2.2]
      rfl

theorem QuotesEscaped.cases {c : Char} {text : List Char} (h : QuotesEscaped (c :: text)) :
    (c = '\\' ∧ ∃ rest, text = '"' :: rest ∧ QuotesEscaped rest) ∨
      (c ≠ '"' ∧ (c = '\\' → text.head? ≠ some '"') ∧ QuotesEscaped text) := by
  have hc : c ≠ '"' := by
    rintro rfl
    have := h [] text rfl
    simp at this
  by_cases hpair : c = '\\' ∧ text.head? = some '"'
  · obtain ⟨rfl, hhead⟩ := hpair
    obtain ⟨rest, rfl⟩ := List.head?_eq_some_iff.1 hhead
    refine .inl ⟨rfl, rest, rfl, ?_⟩
    intro before after heq
    have hlast := h ('\\' :: '"' :: before) after (by rw [heq]; rfl)
    -- the pair itself does not end in a backslash, so something stands behind it
    cases before with
    | nil => simp at hlast
    | cons d before => rwa [List.getLast?_cons_cons, List.getLast?_cons_cons] at hlast
  · refine .inr ⟨hc, fun h₁ h₂ => hpair ⟨h₁, h₂⟩, ?_⟩
    intro before after heq
    have hlast := h (c :: before) after (by rw [heq]; rfl)
    cases before with
    | nil =>
        refine absurd ⟨by simpa using hlast, ?_⟩ hpair
        rw [heq]
        rfl
    | cons d before => rwa [List.getLast?_cons_cons] at hlast

namespace Lexeme

theorem splitBody_cons {c : Char} {text : List Char} (hc : c ≠ '"')
    (hpair : c = '\\' → text.head? ≠ some '"') :
    splitBody (c :: text) = (c :: (splitBody text).1, (splitBody text).2) := by
  rw [splitBody]
  · exact hc
  · rintro rest h rfl
    exact hpair h rfl

/-- A body with escaped quotes only is taken whole, up to a quote that is not
escaped or up to the end of the text. -/
theorem splitBody_of_quotesEscaped {body rest : List Char} (hq : QuotesEscaped body)
    (hrest : rest = [] ∨ body.getLast? ≠ some '\\' ∧ rest.head? = some '"') :
    splitBody (body ++ rest) = (body, rest) := by
  fun_induction unescape body with
  | case1 body ih =>
      rcases hq.cases with ⟨-, body', hbody, hq⟩ | ⟨-, hne, -⟩
      · cases hbody
        rw [List.cons_append, List.cons_append, splitBody, ih hq]
        rcases hrest with hrest | ⟨hlast, hrest⟩
        · exact .inl hrest
        · refine .inr ⟨fun h => hlast ?_, hrest⟩
          rw [List.getLast?_cons_cons, List.getLast?_cons, h]
          rfl
      · exact absurd rfl (hne rfl)
  | case2 c body hpair ih =>
      rcases hq.cases with ⟨rfl, body', rfl, -⟩ | ⟨hc, hne, hq⟩
      · exact absurd rfl (hpair body' rfl)
      · rw [List.cons_append, splitBody_cons hc, ih hq]
        · rcases hrest with hrest | ⟨hlast, hrest⟩
          · exact .inl hrest
          · refine .inr ⟨fun h => hlast ?_, hrest⟩
            rw [List.getLast?_cons, h]
            rfl
        · intro hslash
          cases body with
          | nil =>
              rcases hrest with rfl | ⟨hlast, -⟩
              · simp
              · exact absurd (congrArg some hslash) hlast
          | cons d body => exact hne hslash
  | case3 =>
      rcases hrest with rfl | ⟨-, hrest⟩
      · rfl
      · obtain ⟨rest, rfl⟩ := List.head?_eq_some_iff.1 hrest
        rfl

end Lexeme

/-! ## The scanner has no choice -/

namespace Lexeme

theorem split_digit {c : Char} (hd : c.isDigit = true) (text : List Char) :
    split c text =
      (.number (c :: text.takeWhile Char.isDigit), text.dropWhile Char.isDigit) := by
  have hne : ∀ d : Char, d.isDigit = false → c ≠ d := by
    rintro d h rfl
    rw [h] at hd
    cases hd
  simp [split, isSpace, hd, hne '\n' (by decide), hne ' ' (by decide), hne '\t' (by decide),
    hne '\r' (by decide), hne '/' (by decide), hne '"' (by decide)]

theorem split_quote (text : List Char) : split '"' text = splitLiteral text := by
  simp [split, isSpace]

theorem split_symbol {c : Char} {text : List Char} (hn : c ≠ '\n') (hb : isSpace c = false)
    (hs : ¬ (c = '/' ∧ text.head? = some '/')) (hq : c ≠ '"') (hd : c.isDigit = false)
    (hw : startsWord c = false) : split c text = splitSymbol c text := by
  simp [split, hn, hb, hs, hq, hd, hw]

/-- A character that starts a symbol starts no lexeme of another class. -/
theorem of_symbolKind? {c : Char} {kind : TokenKind} (h : symbolKind? [c] = some kind) :
    c ≠ '\n' ∧ isSpace c = false ∧ c ≠ '"' ∧ c.isDigit = false ∧ startsWord c = false := by
  have hrows : (symbols.map fun row => row.1.toList).all (fun text => (text.take 1).all fun d =>
      decide (d ≠ '\n' ∧ isSpace d = false ∧ d ≠ '"' ∧ d.isDigit = false ∧
        startsWord d = false)) = true := by
    decide +kernel
  have hmem : [c] ∈ symbols.map fun row => row.1.toList := (symbolKind?_isSome [c]).1 (by simp [h])
  have hrow := List.all_eq_true.1 (List.all_eq_true.1 hrows [c] hmem) c List.mem_cons_self
  exact of_decide_eq_true hrow

/-- Where no pair starts, one character is taken. -/
theorem splitSymbol_of_not_startsPair {c : Char} {rest : List Char} (hp : ¬ StartsPair c rest) :
    splitSymbol c rest =
      match symbolKind? [c] with
      | some kind => (.symbol [c] kind, rest)
      | none => (.illegal c, rest) := by
  cases rest with
  | nil => rfl
  | cons d rest =>
      have hnone : symbolKind? [c, d] = none := by
        rw [← Option.not_isSome_iff_eq_none]
        exact fun h => hp ((startsPair_iff c _).2 ⟨d, rest, rfl, h⟩)
      cases hk : symbolKind? [c] <;> simp only [splitSymbol, hnone, hk]

end Lexeme

open Lexeme

/-- The lexeme that is admitted in front of a text is the one that is cut off. -/
theorem Scans.lexemes_append {lexeme rest : List Char} {kind : TokenKind} {value : String}
    (h : Scans lexeme rest kind value) :
    ∃ l : Lexeme, lexemes (lexeme ++ rest) = l :: lexemes rest ∧ l.token? = some (kind, value) := by
  suffices hsplit : ∃ c text, ∃ l : Lexeme, lexeme = c :: text ∧
      split c (text ++ rest) = (l, rest) ∧ l.token? = some (kind, value) by
    obtain ⟨c, text, l, rfl, hl, htok⟩ := hsplit
    exact ⟨l, by rw [List.cons_append, lexemes, hl], htok⟩
  cases h with
  | newline => exact ⟨'\n', [], .newline, rfl, rfl, rfl⟩
  | @integer digits rest hne hd hmax =>
      obtain ⟨c, text, rfl⟩ := List.exists_cons_of_ne_nil hne
      obtain ⟨hc, htext⟩ := List.forall_mem_cons.1 hd
      obtain ⟨htake, hdrop⟩ := takeWhile_append_of_stop htext hmax
      exact ⟨c, text, .number (c :: text), rfl, by rw [split_digit hc, htake, hdrop], rfl⟩
  | @word c text rest hc ht hmax =>
      obtain ⟨htake, hdrop⟩ := takeWhile_append_of_stop ht hmax
      exact ⟨c, text, .word (c :: text), rfl, by rw [split_startsWord hc, htake, hdrop], rfl⟩
  | @closed body rest hq hend =>
      refine ⟨'"', body ++ ['"'], .literal body true, rfl, ?_, rfl⟩
      rw [split_quote, List.append_assoc, List.singleton_append, splitLiteral,
        splitBody_of_quotesEscaped hq (.inr ⟨hend, rfl⟩)]
  | @unclosed body hq =>
      refine ⟨'"', body, .literal body false, rfl, ?_, rfl⟩
      rw [split_quote, splitLiteral, splitBody_of_quotesEscaped hq (.inl rfl)]
  | @pair c kind rest hc hk =>
      refine ⟨c, ['='], .symbol [c, '='] kind, rfl, ?_, rfl⟩
      have hsplit : split c ('=' :: rest) = splitSymbol c ('=' :: rest) := by
        simp only [List.mem_cons, List.not_mem_nil, or_false] at hc
        rcases hc with rfl | rfl | rfl | rfl <;> simp [split, isSpace, startsWord]
      rw [List.singleton_append, hsplit, splitSymbol, hk]
  | @symbol c rest kind hp hs hk =>
      obtain ⟨hn, hb, hq, hd, hw⟩ := of_symbolKind? hk
      refine ⟨c, [], .symbol [c] kind, rfl, ?_, rfl⟩
      rw [List.nil_append, split_symbol hn hb hs hq hd hw, splitSymbol_of_not_startsPair hp, hk]
  | @unknown c rest hn hb hq hd hw hp hk =>
      have hs : ¬ (c = '/' ∧ rest.head? = some '/') := by
        rintro ⟨rfl, -⟩
        cases hk
      refine ⟨c, [], .illegal c, rfl, ?_, rfl⟩
      rw [List.nil_append, split_symbol hn hb hs hq hd hw, splitSymbol_of_not_startsPair hp, hk]

/-! ## Contents -/

/-- A token without its place. -/
def Token.content (t : Token) : TokenKind × String :=
  (t.kind, t.value)

/-- What the tokens of a text are, the end of input apart. -/
def contents (text : List Char) : List (TokenKind × String) :=
  (lexemes text).filterMap Lexeme.token?

theorem content_placeTokens (pos : Position) (ls : List Lexeme) :
    (placeTokens pos ls).map Token.content = ls.filterMap Lexeme.token? ++ [(.eof, "")] := by
  induction ls generalizing pos with
  | nil => rfl
  | cons l ls ih =>
      unfold placeTokens
      split
      · next kind value h =>
          rw [List.map_cons, ih, List.filterMap_cons_some h]
          rfl
      · next h => rw [ih, List.filterMap_cons_none h]

theorem content_tokenize (source : String) :
    (tokenize source).map Token.content = contents source.toList ++ [(.eof, "")] :=
  content_placeTokens .start _

theorem Scans.contents_append {lexeme rest : List Char} {kind : TokenKind} {value : String}
    (h : Scans lexeme rest kind value) :
    contents (lexeme ++ rest) = (kind, value) :: contents rest := by
  obtain ⟨l, hl, htok⟩ := h.lexemes_append
  rw [contents, hl, List.filterMap_cons_some htok]
  rfl

/-- A space in front of a text makes no difference to its tokens. -/
theorem contents_space (text : List Char) : contents (' ' :: text) = contents text := by
  have hblank : ∀ {c : Char}, isSpace c = true → ∀ text,
      contents (c :: text) = contents (text.dropWhile isSpace) := by
    intro c hc text
    have hne : c ≠ '\n' := by
      rintro rfl
      cases hc
    rw [contents, lexemes, split, if_neg hne, if_pos hc, List.filterMap_cons_none rfl]
    rfl
  rw [hblank rfl]
  cases text with
  | nil => rfl
  | cons c text =>
      cases hc : isSpace c with
      | true => rw [List.dropWhile_cons_of_pos hc, hblank hc]
      | false => rw [List.dropWhile_cons_of_neg (by simp [hc])]

/-! ## Printing -/

/-- A token as it is written in a source. -/
def Token.written (t : Token) : String :=
  match t.kind with
  | .string => cString t.value
  | .newline => "\n"
  | _ => t.value

/-- Tokens as they are written one after the other, with spaces in between. -/
def printed (tokens : List Token) : String :=
  Text.joinWith " " (tokens.map Token.written)

/-- A character that starts no lexeme on its own: no token but an illegal one, no
comment and no blank. -/
def Lexeme.startsNone (c : Char) : Bool :=
  c != '\n' && !isSpace c && c != '/' && c != '"' && !c.isDigit && !startsWord c &&
    !symbols.any fun row => row.1.toList.head? == some c

/-- The values of the tokens of a kind. The exclamation mark is illegal unless it
stands before an equals sign. A string can have any value, but one that ends in a
backslash cannot be written. -/
def TokenKind.admits (kind : TokenKind) (value : String) : Bool :=
  match kind with
  | .integer => value.toList ≠ [] && value.toList.all Char.isDigit
  | .identifier =>
    value.toList.head?.any startsWord && value.toList.tail.all inWord &&
      decide (value ∉ keywords.map (·.1))
  | .keyword _ | .builtin _ => decide ((value, kind) ∈ keywords)
  | .string => value.toList.getLast? ≠ some '\\'
  | .newline => value = "\\n"
  | .unknown =>
    match value.toList with
    | [c] => c = '!' || startsNone c
    | _ => false
  | .eof => false
  | _ => decide ((value, kind) ∈ symbols)

theorem escapeQuotes_cons {c : Char} (hc : c ≠ '"') (text : List Char) :
    escapeQuotes (c :: text) = c :: escapeQuotes text := by
  simp [escapeQuotes, hc]

theorem unescape_escapeQuotes (text : List Char) : unescape (escapeQuotes text) = text := by
  induction text with
  | nil => rfl
  | cons c text ih =>
      by_cases hc : c = '"'
      · subst hc
        exact congrArg ('"' :: ·) ih
      · rw [escapeQuotes_cons hc, unescape, ih]
        -- what follows a backslash is not a quote: quotes are escaped themselves
        rintro rest - htext
        cases text with
        | nil => cases htext
        | cons d text =>
            by_cases hd : d = '"'
            · simp [escapeQuotes, hd] at htext
            · rw [escapeQuotes_cons hd] at htext
              exact hd (List.cons.inj htext).1

theorem quotesEscaped_escapeQuotes (text : List Char) : QuotesEscaped (escapeQuotes text) := by
  induction text with
  | nil => exact .nil
  | cons c text ih =>
      by_cases hc : c = '"'
      · subst hc
        exact ih.escaped
      · rw [escapeQuotes_cons hc]
        exact ih.cons hc

theorem getLast?_escapeQuotes (text : List Char) :
    (escapeQuotes text).getLast? = text.getLast? := by
  rcases List.eq_nil_or_concat text with rfl | ⟨front, c, rfl⟩
  · rfl
  · have hlast : escapeQuotes (front ++ [c]) =
        escapeQuotes front ++ (if c = '"' then ['\\', '"'] else [c]) := by
      simp [escapeQuotes]
    rw [List.concat_eq_append, hlast]
    split
    · next hc => simp [hc]
    · simp

/-- A string is written as one literal in front of anything, if its closing quote
is not taken for an escaped one. -/
theorem scans_cString {value : String} (h : value.toList.getLast? ≠ some '\\')
    (rest : List Char) : Scans (cString value).toList rest .string value := by
  have hchars : (cString value).toList = '"' :: (escapeQuotes value.toList ++ ['"']) := by
    simp [cString]
  have hscans := Scans.closed rest (quotesEscaped_escapeQuotes value.toList)
    (by rwa [getLast?_escapeQuotes])
  rwa [unescape_escapeQuotes, String.ofList_toList, ← hchars] at hscans

/-- No token goes on into this text: it is empty, or it starts with a space, a
parenthesis or a comma. -/
def Parted (rest : List Char) : Prop :=
  ∀ c ∈ rest.head?, c ∈ [' ', '(', ')', ',']

theorem Parted.head?_ne {rest : List Char} (h : Parted rest) {c : Char}
    (hc : c ∉ [' ', '(', ')', ',']) : rest.head? ≠ some c :=
  fun hhead => hc (h c hhead)

/-- A run of characters that no divider belongs to ends before the text. -/
theorem Parted.stops {rest : List Char} (h : Parted rest) {p : Char → Bool}
    (hp : [' ', '(', ')', ','].all (fun c => !p c) = true) : ∀ c ∈ rest.head?, p c = false := by
  intro c hc
  simpa using List.all_eq_true.1 hp c (h c hc)

theorem scans_symbol {value : String} {kind : TokenKind} (h : (value, kind) ∈ symbols)
    {rest : List Char} (hrest : Parted rest) : Scans value.toList rest kind value := by
  have hrows : ∀ row ∈ symbols, symbolKind? row.1.toList = some row.2 ∧
      (row.1.toList.length = 1 ∨ row.1.toList.length = 2) := by
    decide +kernel
  obtain ⟨hkind, hlength⟩ := hrows (value, kind) h
  dsimp only at hkind hlength
  have hvalue : String.ofList value.toList = value := String.ofList_toList
  rcases hlength with hone | htwo
  · obtain ⟨c, hc⟩ := List.length_eq_one_iff.1 hone
    rw [hc] at hkind hvalue ⊢
    rw [← hvalue]
    exact .symbol (fun hp => hrest.head?_ne (by decide) hp.2)
      (fun hs => hrest.head?_ne (by decide) hs.2) hkind
  · obtain ⟨c, d, hcd⟩ := List.length_eq_two.1 htwo
    rw [hcd] at hkind hvalue ⊢
    obtain ⟨hc, rfl⟩ := (symbolKind?_pair c d).1 (by rw [hkind]; rfl)
    rw [← hvalue]
    exact .pair rest hc hkind

theorem scans_word {value : String} (hhead : value.toList.head?.any startsWord = true)
    (htail : value.toList.tail.all inWord = true) {rest : List Char} (hrest : Parted rest) :
    Scans value.toList rest (wordKind value) value := by
  rw [← String.ofList_toList (s := value)]
  generalize value.toList = text at hhead htail
  rw [String.toList_ofList]
  cases text with
  | nil => cases hhead
  | cons c text =>
      exact .word (by simpa using hhead) (List.all_eq_true.1 htail) (hrest.stops rfl)

theorem scans_unknown {c : Char} (h : c = '!' ∨ startsNone c = true) {rest : List Char}
    (hrest : Parted rest) : Scans [c] rest .unknown (String.ofList [c]) := by
  have hp : ¬ StartsPair c rest := fun hp => hrest.head?_ne (by decide) hp.2
  rcases h with rfl | h
  · exact .unknown (by decide) rfl (by decide) rfl rfl hp rfl
  · simp only [startsNone, Bool.and_eq_true, bne_iff_ne, Bool.not_eq_true', ne_eq] at h
    obtain ⟨⟨⟨⟨⟨⟨hn, hb⟩, -⟩, hq⟩, hd⟩, hw⟩, hsymbols⟩ := h
    refine .unknown hn hb hq hd hw hp ?_
    rw [← Option.not_isSome_iff_eq_none, symbolKind?_isSome]
    intro hmem
    obtain ⟨row, hrow, hc⟩ := List.mem_map.1 hmem
    have := List.any_eq_false.1 hsymbols row hrow
    rw [hc] at this
    simp at this

/-- A written token is found again where no token goes on behind it. -/
theorem scans_written {t : Token} (h : t.kind.admits t.value = true) {rest : List Char}
    (hrest : Parted rest) : Scans t.written.toList rest t.kind t.value := by
  obtain ⟨kind, value, pos⟩ := t
  cases kind with
  | integer =>
      simp only [TokenKind.admits, Bool.and_eq_true, decide_eq_true_eq] at h
      have hscans := Scans.integer h.1 (List.all_eq_true.1 h.2) (hrest.stops rfl)
      rwa [String.ofList_toList] at hscans
  | identifier =>
      simp only [TokenKind.admits, Bool.and_eq_true, decide_eq_true_eq] at h
      obtain ⟨⟨hhead, htail⟩, hword⟩ := h
      have hkind : wordKind value = .identifier := by
        rw [wordKind, List.lookup_eq_none_iff.2]
        · rfl
        · intro row hrow
          have : value ≠ row.1 := fun h => hword (List.mem_map.2 ⟨row, hrow, h.symm⟩)
          simpa using this
      have hscans := scans_word hhead htail hrest
      rwa [hkind] at hscans
  | keyword word | builtin word =>
      obtain ⟨⟨c, text, htext, hc, hin⟩, hkind, -⟩ := of_mem_keywords (of_decide_eq_true h)
      have hhead : value.toList.head?.any startsWord = true := by rw [htext]; simpa using hc
      have htail : value.toList.tail.all inWord = true := by
        rw [htext]
        exact List.all_eq_true.2 hin
      have hscans := scans_word hhead htail hrest
      rwa [hkind] at hscans
  | string => exact scans_cString (by simpa [TokenKind.admits] using h) rest
  | newline =>
      obtain rfl : value = "\\n" := of_decide_eq_true h
      have hline : "\n".toList = ['\n'] := by simp
      show Scans "\n".toList rest .newline "\\n"
      rw [hline]
      exact .newline rest
  | unknown =>
      rw [← String.ofList_toList (s := value)] at h ⊢
      generalize value.toList = text at h
      simp only [TokenKind.admits, String.toList_ofList] at h
      split at h
      · simp only [Token.written, String.toList_ofList]
        exact scans_unknown (by simpa using h) hrest
      · cases h
  | eof => cases h
  | _ => exact scans_symbol (of_decide_eq_true h) hrest

/-! ## What is scanned can be written -/

/-- A word is in the table with its kind, or it is an identifier. -/
theorem wordKind_cases (word : String) :
    (word, wordKind word) ∈ keywords ∨
      (wordKind word = .identifier ∧ word ∉ keywords.map (·.1)) := by
  unfold wordKind
  cases h : keywords.lookup word with
  | some kind =>
      obtain ⟨l₁, l₂, hl, -⟩ := List.lookup_eq_some_iff.1 h
      exact .inl (by rw [hl]; simp)
  | none =>
      refine .inr ⟨rfl, fun hmem => ?_⟩
      obtain ⟨row, hrow, rfl⟩ := List.mem_map.1 hmem
      simpa using List.lookup_eq_none_iff.1 h row hrow

theorem mem_symbols_of_symbolKind? {text : List Char} {kind : TokenKind}
    (h : symbolKind? text = some kind) : (String.ofList text, kind) ∈ symbols := by
  obtain ⟨l₁, l₂, hl, -⟩ := List.lookup_eq_some_iff.1 h
  rw [hl]
  simp

theorem startsNone_of_symbolKind? {c : Char} (hn : c ≠ '\n') (hb : isSpace c = false) (hq : c ≠ '"')
    (hd : c.isDigit = false) (hw : startsWord c = false) (hk : symbolKind? [c] = none) :
    c = '!' ∨ startsNone c = true := by
  -- every character that starts a symbol is one, but for the exclamation mark
  have hrows : ∀ row ∈ symbols,
      (row.1.toList.head?.all fun d => d == '!' || (symbolKind? [d]).isSome) = true := by
    decide +kernel
  by_cases hbang : c = '!'
  · exact .inl hbang
  · have hslash : c ≠ '/' := by
      rintro rfl
      cases hk
    have hsymbols : (symbols.any fun row => row.1.toList.head? == some c) = false := by
      refine List.any_eq_false.2 fun row hrow hhead => ?_
      have hrow := hrows row hrow
      rw [show row.1.toList.head? = some c by simpa using hhead] at hrow
      simp [hbang, hk] at hrow
    exact .inr (by simp [startsNone, hn, hb, hslash, hq, hd, hw, hsymbols])

/-- What a lexeme stands for is a value that its kind can have. -/
theorem Scans.admits {lexeme rest : List Char} {kind : TokenKind} {value : String}
    (h : Scans lexeme rest kind value)
    (hstring : kind = .string → value.toList.getLast? ≠ some '\\') : kind.admits value = true := by
  have hkeywords : ∀ row ∈ keywords, row.2.admits row.1 = true := by decide +kernel
  have hsymbols : ∀ row ∈ symbols, row.2.admits row.1 = true := by decide +kernel
  cases h with
  | newline => rfl
  | integer hne hd hmax => simpa [TokenKind.admits, hne] using hd
  | @word c text rest hc ht hmax =>
      rcases wordKind_cases (String.ofList (c :: text)) with hmem | ⟨hkind, hmem⟩
      · exact hkeywords _ hmem
      · simp only [hkind, TokenKind.admits, String.toList_ofList, Bool.and_eq_true,
          decide_eq_true_eq]
        exact ⟨⟨by simpa using hc, List.all_eq_true.2 ht⟩, hmem⟩
  | closed rest hq hend => simpa [TokenKind.admits] using hstring rfl
  | unclosed hq => simpa [TokenKind.admits] using hstring rfl
  | pair rest hc hk => exact hsymbols _ (mem_symbols_of_symbolKind? hk)
  | symbol hp hs hk => exact hsymbols _ (mem_symbols_of_symbolKind? hk)
  | unknown hn hb hq hd hw hp hk =>
      simpa [TokenKind.admits] using startsNone_of_symbolKind? hn hb hq hd hw hk

/-! ## Reading back -/

theorem toList_printed_cons (t : Token) (tokens : List Token) :
    ∃ behind : List Char, (printed (t :: tokens)).toList = t.written.toList ++ behind ∧
      Parted behind ∧ contents behind = contents (printed tokens).toList := by
  cases tokens with
  | nil => exact ⟨[], by simp [printed, Text.joinWith], by simp [Parted], rfl⟩
  | cons u tokens =>
      refine ⟨' ' :: (printed (u :: tokens)).toList, ?_, by simp [Parted], contents_space _⟩
      simp [printed, Text.joinWith]

/-- Tokens with values that can be written are read back from what is written,
each with its kind and its value, and the end of input behind them. -/
theorem printed_is_read_back (tokens : List Token)
    (h : ∀ t ∈ tokens, t.kind.admits t.value = true) :
    (tokenize (printed tokens)).map Token.content =
      tokens.map Token.content ++ [(.eof, "")] := by
  suffices hcontents : contents (printed tokens).toList = tokens.map Token.content by
    rw [content_tokenize, hcontents]
  induction tokens with
  | nil => rw [printed, List.map_nil, Text.joinWith, String.toList_empty, contents, lexemes]; rfl
  | cons t tokens ih =>
      obtain ⟨ht, htokens⟩ := List.forall_mem_cons.1 h
      obtain ⟨behind, hprinted, hbehind, hcontents⟩ := toList_printed_cons t tokens
      rw [hprinted, (scans_written ht hbehind).contents_append, hcontents, ih htokens]
      rfl

/-- A string with a quote behind a backslash, a comment and a line break in it, and
pairs of tokens that would be one without the space. -/
def touchingTokens : List Token :=
  [⟨.string, "a\\\"b// \n\"", .start⟩, ⟨.operator .slash, "/", .start⟩,
    ⟨.operator .slash, "/", .start⟩, ⟨.unknown, "!", .start⟩, ⟨.equal, "=", .start⟩,
    ⟨.integer, "1", .start⟩, ⟨.identifier, "varx", .start⟩, ⟨.newline, "\\n", .start⟩,
    ⟨.keyword .varK, "var", .start⟩, ⟨.unknown, "$", .start⟩, ⟨.string, "", .start⟩]

theorem printed_is_read_back_touching :
    (∀ t ∈ touchingTokens, t.kind.admits t.value = true) ∧
      (tokenize (printed touchingTokens)).map Token.content =
        touchingTokens.map Token.content ++ [(.eof, "")] := by
  have hadmits : ∀ t ∈ touchingTokens, t.kind.admits t.value = true := by decide +kernel
  exact ⟨hadmits, printed_is_read_back touchingTokens hadmits⟩

end StageZero
