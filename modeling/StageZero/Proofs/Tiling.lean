import StageZero.Token.Scan

/-!
# The tokens tile the source

What the scanner promises, without saying how it scans. Every character of a
source text belongs to the lexeme of one token or to a gap between tokens, a gap
is made of blanks and comments, and what a lexeme is decides the kind and the
value of its token. `Tiled` is this as a relation between a text and a list of
tokens, and it places the tokens too: a place is a count of characters, of line
breaks, and of characters since the last line break.

How far a lexeme reaches is part of it. A lexeme is looked at together with what
follows, so that numbers and words are as long as they can be, a symbol of two
characters is not cut in two, and a string ends at the first quote that may end
it.
-/

namespace StageZero

/-! ## Places -/

/-- The place behind a stretch of text from the beginning of a source. -/
def placeAfter (before : List Char) : Position where
  index := before.length
  line := 1 + before.count '\n'
  column := 1 + (before.reverse.takeWhile (· ≠ '\n')).length

theorem step_placeAfter (before : List Char) (c : Char) :
    (placeAfter before).step c = placeAfter (before ++ [c]) := by
  unfold Position.step
  split
  · next h =>
      subst h
      simp [placeAfter, Int.add_assoc]
  · next h => simp [placeAfter, List.count_append, h, Int.add_assoc]

theorem after_placeAfter (before text : List Char) :
    (placeAfter before).after text = placeAfter (before ++ text) := by
  induction text generalizing before with
  | nil => rw [List.append_nil, Position.after_nil]
  | cons c text ih => rw [Position.after_cons, step_placeAfter, ih, List.append_assoc]; rfl

/-! ## Gaps and lexemes -/

/-- Blanks and comments in front of a text. A comment goes up to a line break or
to the end of the source. -/
inductive Gap : List Char → List Char → Prop where
  | none (rest : List Char) : Gap [] rest
  | blank {c : Char} {gap rest : List Char} (hc : c = ' ' ∨ c = '\t' ∨ c = '\r')
      (h : Gap gap rest) : Gap (c :: gap) rest
  | comment {text gap rest : List Char} (ht : '\n' ∉ text)
      (hend : gap ++ rest = [] ∨ (gap ++ rest).head? = some '\n') (h : Gap gap rest) :
      Gap ('/' :: '/' :: (text ++ gap)) rest

/-- Every quote in the text stands right behind a backslash. -/
def QuotesEscaped (text : List Char) : Prop :=
  ∀ before after, text = before ++ '"' :: after → before.getLast? = some '\\'

/-- A symbol of two characters starts here. -/
def StartsPair (c : Char) (rest : List Char) : Prop :=
  c ∈ ['=', '!', '<', '>'] ∧ rest.head? = some '='

/-- A lexeme in front of a text, with the kind and the value of its token. -/
inductive Scans : List Char → List Char → TokenKind → String → Prop where
  | newline (rest : List Char) : Scans ['\n'] rest .newline "\\n"
  | integer {digits rest : List Char} (hne : digits ≠ []) (hd : ∀ c ∈ digits, c.isDigit = true)
      (hmax : ∀ c ∈ rest.head?, c.isDigit = false) :
      Scans digits rest .integer (String.ofList digits)
  | word {c : Char} {text rest : List Char} (hc : Lexeme.startsWord c = true)
      (ht : ∀ d ∈ text, Lexeme.inWord d = true)
      (hmax : ∀ d ∈ rest.head?, Lexeme.inWord d = false) :
      Scans (c :: text) rest (wordKind (String.ofList (c :: text))) (String.ofList (c :: text))
  | closed {body : List Char} (rest : List Char) (hq : QuotesEscaped body)
      (hend : body.getLast? ≠ some '\\') :
      Scans ('"' :: (body ++ ['"'])) rest .string (String.ofList (Lexeme.unescape body))
  | unclosed {body : List Char} (hq : QuotesEscaped body) :
      Scans ('"' :: body) [] .string (String.ofList (Lexeme.unescape body))
  | pair {c : Char} {kind : TokenKind} (rest : List Char) (hc : c ∈ ['=', '!', '<', '>'])
      (hk : symbolKind? [c, '='] = some kind) :
      Scans [c, '='] rest kind (String.ofList [c, '='])
  | symbol {c : Char} {rest : List Char} {kind : TokenKind} (hp : ¬ StartsPair c rest)
      (hs : ¬ (c = '/' ∧ rest.head? = some '/')) (hk : symbolKind? [c] = some kind) :
      Scans [c] rest kind (String.ofList [c])
  | unknown {c : Char} {rest : List Char} (hn : c ≠ '\n') (hb : Lexeme.isSpace c = false)
      (hq : c ≠ '"') (hd : c.isDigit = false) (hw : Lexeme.startsWord c = false)
      (hp : ¬ StartsPair c rest) (hk : symbolKind? [c] = none) :
      Scans [c] rest .unknown (String.ofList [c])

/-- The tokens of a text that stands behind another in a source. -/
inductive Tiled : List Char → List Char → List Token → Prop where
  | stop {before gap : List Char} (hg : Gap gap []) :
      Tiled before gap [.eof (placeAfter (before ++ gap))]
  | token {before gap lexeme rest : List Char} {kind : TokenKind} {value : String}
      {tokens : List Token} (hg : Gap gap (lexeme ++ rest)) (hl : Scans lexeme rest kind value)
      (h : Tiled (before ++ gap ++ lexeme) rest tokens) :
      Tiled before (gap ++ lexeme ++ rest) (⟨kind, value, placeAfter (before ++ gap)⟩ :: tokens)

/-! ## Strings -/

namespace Lexeme

theorem quotesEscaped_splitBody (text : List Char) : QuotesEscaped (splitBody text).1 := by
  fun_induction splitBody text with
  | case1 =>
      intro before after h
      simp at h
  | case2 rest =>
      intro before after h
      simp at h
  | case3 rest ih =>
      intro before after h
      cases before with
      | nil => simp at h
      | cons c before =>
          rw [List.cons_append, List.cons.injEq] at h
          obtain ⟨rfl, h⟩ := h
          cases before with
          | nil => rfl
          | cons d before =>
              rw [List.cons_append, List.cons.injEq] at h
              rw [List.getLast?_cons_cons, List.getLast?_cons, ih before after h.2]
              rfl
  | case4 c rest hquote hescape ih =>
      intro before after h
      cases before with
      | nil =>
          rw [List.nil_append, List.cons.injEq] at h
          exact absurd h.1 hquote
      | cons d before =>
          rw [List.cons_append, List.cons.injEq] at h
          rw [List.getLast?_cons, ih before after h.2]
          rfl

/-- A closing quote does not stand behind a backslash. -/
theorem getLast?_splitBody {text rest : List Char} (h : (splitBody text).2 = '"' :: rest) :
    (splitBody text).1.getLast? ≠ some '\\' := by
  fun_induction splitBody text with
  | case1 => cases h
  | case2 rest => simp
  | case3 text ih =>
      have hlast := ih h
      rw [List.getLast?_cons_cons, List.getLast?_cons]
      cases hbody : (splitBody text).1.getLast? with
      | none => simp
      | some d => rw [hbody] at hlast; simpa using hlast
  | case4 c text hquote hescape ih =>
      have hlast := ih h
      rw [List.getLast?_cons]
      cases hbody : (splitBody text).1.getLast? with
      | none =>
          -- the body ends here, so the closing quote is the next character
          have htext := splitBody_append text
          rw [List.getLast?_eq_none_iff.1 hbody, List.nil_append] at htext
          intro hc
          exact hescape rest (by simpa using hc) (htext.symm.trans h)
      | some d => rw [hbody] at hlast; simpa using hlast

/-! ## One lexeme -/

/-- What a lexeme stands for in front of a text: a token of its class, or a
blank or a comment. -/
def Stands (l : Lexeme) (rest : List Char) : Prop :=
  match l.token? with
  | some (kind, value) => Scans l.chars rest kind value
  | none => Gap l.chars rest

theorem symbolKind?_isSome (text : List Char) :
    (symbolKind? text).isSome ↔ text ∈ symbols.map fun row => row.1.toList := by
  rw [symbolKind?, List.lookup_isSome_iff]
  simp only [List.mem_map, beq_iff_eq]
  constructor
  · rintro ⟨row, hrow, h⟩
    exact ⟨row, hrow, by rw [← h, String.toList_ofList]⟩
  · rintro ⟨row, hrow, rfl⟩
    exact ⟨row, hrow, String.ofList_toList⟩

/-- The symbols of two characters. -/
theorem symbolKind?_pair (c d : Char) :
    (symbolKind? [c, d]).isSome ↔ c ∈ ['=', '!', '<', '>'] ∧ d = '=' := by
  rw [symbolKind?_isSome]
  simp [symbols]
  grind

theorem startsPair_iff (c : Char) (rest : List Char) :
    StartsPair c rest ↔ ∃ d tail, rest = d :: tail ∧ (symbolKind? [c, d]).isSome := by
  constructor
  · rintro ⟨hc, hhead⟩
    obtain ⟨tail, rfl⟩ := List.head?_eq_some_iff.1 hhead
    exact ⟨'=', tail, rfl, (symbolKind?_pair c '=').2 ⟨hc, rfl⟩⟩
  · rintro ⟨d, tail, rfl, hsome⟩
    obtain ⟨hc, rfl⟩ := (symbolKind?_pair c d).1 hsome
    exact ⟨hc, rfl⟩

theorem head?_dropWhile {p : Char → Bool} (text : List Char) :
    ∀ c ∈ (text.dropWhile p).head?, p c = false := by
  intro c hc
  have := List.head?_dropWhile_not p text
  rwa [Option.mem_def.1 hc] at this

theorem mem_takeWhile {p : Char → Bool} (text : List Char) :
    ∀ c ∈ text.takeWhile p, p c = true :=
  List.all_eq_true.1 List.all_takeWhile

theorem gap_of_blank {run : List Char} (h : ∀ c ∈ run, isSpace c = true) (rest : List Char) :
    Gap run rest := by
  induction run with
  | nil => exact .none rest
  | cons c run ih =>
      refine .blank ?_ (ih fun d hd => h d (List.mem_cons_of_mem c hd))
      simpa [isSpace, or_assoc] using h c List.mem_cons_self

theorem stands_splitLiteral (text : List Char) :
    Stands (splitLiteral text).1 (splitLiteral text).2 := by
  have hq := quotesEscaped_splitBody text
  unfold splitLiteral
  split
  · next body d rest h =>
      obtain ⟨rest', hrest⟩ : ∃ rest', (splitBody text).2 = '"' :: rest' := by
        rcases splitBody_rest text with hnil | hcons
        · rw [h] at hnil; cases hnil
        · exact hcons
      have hend := getLast?_splitBody hrest
      rw [h] at hq hend
      exact .closed rest hq hend
  · next body h =>
      rw [h] at hq
      show Scans ('"' :: (body ++ [])) [] _ _
      rw [List.append_nil]
      exact .unclosed hq

theorem stands_splitSymbol {c : Char} {text : List Char} (hn : c ≠ '\n')
    (hb : isSpace c = false) (hs : ¬ (c = '/' ∧ text.head? = some '/')) (hq : c ≠ '"')
    (hd : c.isDigit = false) (hw : startsWord c = false) :
    Stands (splitSymbol c text).1 (splitSymbol c text).2 := by
  unfold splitSymbol
  split
  · next d rest =>
      split
      · next kind hk =>
          obtain ⟨hc, rfl⟩ := (symbolKind?_pair c d).1 (by rw [hk]; rfl)
          exact Scans.pair rest hc hk
      · next hk =>
          have hp : ¬ StartsPair c (d :: rest) := by
            rw [startsPair_iff]
            rintro ⟨d', tail, htail, hsome⟩
            cases htail
            rw [hk] at hsome
            cases hsome
          split
          · next kind hk => exact Scans.symbol hp hs hk
          · next hk => exact Scans.unknown hn hb hq hd hw hp hk
  · have hp : ¬ StartsPair c [] := by simp [StartsPair]
    split
    · next kind hk => exact Scans.symbol hp hs hk
    · next hk => exact Scans.unknown hn hb hq hd hw hp hk

/-- The first lexeme of a text stands for a token of its class, or it is a blank
or a comment. -/
theorem stands_split (c : Char) (text : List Char) :
    Stands (split c text).1 (split c text).2 := by
  unfold split
  split
  · exact Scans.newline text
  next hn =>
  split
  · next hb =>
      refine gap_of_blank (fun d hd => ?_) _
      rcases List.mem_cons.1 hd with rfl | hd
      · exact hb
      · exact mem_takeWhile text d hd
  next hb =>
  split
  · next hs =>
      have hnl : '\n' ∉ text.tail.takeWhile (· ≠ '\n') := fun hmem => by
        simpa using mem_takeWhile _ _ hmem
      have hend : text.tail.dropWhile (· ≠ '\n') = [] ∨
          (text.tail.dropWhile (· ≠ '\n')).head? = some '\n' := by
        cases hrest : text.tail.dropWhile (· ≠ '\n') with
        | nil => exact .inl rfl
        | cons d rest =>
            have := head?_dropWhile (p := (· ≠ '\n')) text.tail d (by rw [hrest]; rfl)
            exact .inr (congrArg some (by simpa using this))
      have hgap := Gap.comment hnl hend (.none _)
      rwa [List.append_nil] at hgap
  next hs =>
  split
  · exact stands_splitLiteral text
  next hq =>
  split
  · next hd =>
      refine Scans.integer (List.cons_ne_nil _ _) (fun d hmem => ?_) (head?_dropWhile text)
      rcases List.mem_cons.1 hmem with rfl | hmem
      · exact hd
      · exact mem_takeWhile text d hmem
  next hd =>
  split
  · next hw => exact Scans.word hw (mem_takeWhile text) (head?_dropWhile text)
  next hw =>
  exact stands_splitSymbol hn (Bool.not_eq_true _ ▸ hb) hs hq (Bool.not_eq_true _ ▸ hd)
    (Bool.not_eq_true _ ▸ hw)

end Lexeme

/-! ## The whole text -/

theorem Gap.append {gap gap' rest : List Char} (h : Gap gap (gap' ++ rest)) (h' : Gap gap' rest) :
    Gap (gap ++ gap') rest := by
  generalize htext : gap' ++ rest = text at h
  induction h with
  | none => exact h'
  | blank hc h ih => exact .blank hc (ih htext)
  | comment ht hend h ih =>
      subst htext
      rw [List.cons_append, List.cons_append, List.append_assoc]
      refine .comment ht ?_ (ih rfl)
      rwa [List.append_assoc]

/-- A gap in front of a text is a part of its first gap. -/
theorem Tiled.after_gap {before gap rest : List Char} {tokens : List Token} (hg : Gap gap rest)
    (h : Tiled (before ++ gap) rest tokens) : Tiled before (gap ++ rest) tokens := by
  cases h with
  | stop hg' =>
      rw [List.append_assoc]
      refine .stop (Gap.append ?_ hg')
      rwa [List.append_nil]
  | token hg' hl h =>
      rw [List.append_assoc] at hg
      have htoken := @Tiled.token before _ _ _ _ _ _ (Gap.append hg hg') hl
        (by rwa [← List.append_assoc before])
      simpa only [List.append_assoc] using htoken

theorem tiled_lexemes (before text : List Char) :
    Tiled before text (placeTokens (placeAfter before) (lexemes text)) := by
  fun_induction lexemes text generalizing before with
  | case1 =>
      have h : Tiled before [] [.eof (placeAfter (before ++ []))] := .stop (.none [])
      rwa [List.append_nil] at h
  | case2 c text ih =>
      have hstands := Lexeme.stands_split c text
      have hrest := ih (before ++ (Lexeme.split c text).1.chars)
      rw [← after_placeAfter] at hrest
      rw [← Lexeme.split_chars c text]
      unfold Lexeme.Stands at hstands
      unfold placeTokens
      split
      · next kind value h =>
          rw [h] at hstands
          rw [← List.append_nil before] at hrest
          have htoken := Tiled.token (.none _) hstands hrest
          simpa only [List.append_nil, List.nil_append] using htoken
      · next h =>
          rw [h] at hstands
          exact hrest.after_gap hstands

/-! ## What follows for the tokens -/

/-- No word is the end of input or a line break. -/
theorem wordKind_ne (word : String) : wordKind word ≠ .eof ∧ wordKind word ≠ .newline := by
  have hrows : ∀ row ∈ keywords, row.2 ≠ .eof ∧ row.2 ≠ .newline := by decide
  unfold wordKind
  cases h : keywords.lookup word with
  | none => simp
  | some kind =>
      obtain ⟨l₁, l₂, hl, -⟩ := List.lookup_eq_some_iff.1 h
      exact hrows (word, kind) (by rw [hl]; simp)

/-- No symbol is the end of input or a line break. -/
theorem symbolKind?_ne {text : List Char} {kind : TokenKind} (h : symbolKind? text = some kind) :
    kind ≠ .eof ∧ kind ≠ .newline := by
  have hrows : ∀ row ∈ symbols, row.2 ≠ .eof ∧ row.2 ≠ .newline := by decide
  obtain ⟨l₁, l₂, hl, -⟩ := List.lookup_eq_some_iff.1 h
  exact hrows (String.ofList text, kind) (by rw [hl]; simp)

namespace Scans

variable {lexeme rest : List Char} {kind : TokenKind} {value : String}

/-- No lexeme is empty. -/
theorem ne_nil (h : Scans lexeme rest kind value) : lexeme ≠ [] := by
  cases h with
  | integer hne hd hmax => exact hne
  | _ => exact List.cons_ne_nil _ _

theorem kind_ne_eof (h : Scans lexeme rest kind value) : kind ≠ .eof := by
  cases h with
  | word hc ht hmax => exact (wordKind_ne _).1
  | pair rest hc hk => exact (symbolKind?_ne hk).1
  | symbol hp hs hk => exact (symbolKind?_ne hk).1
  | _ => simp

theorem eq_newline (h : Scans lexeme rest .newline value) : lexeme = ['\n'] := by
  generalize hkind : TokenKind.newline = kind at h
  cases h with
  | newline => rfl
  | word hc ht hmax => exact absurd hkind.symm (wordKind_ne _).2
  | pair rest hc hk => exact absurd hkind.symm (symbolKind?_ne hk).2
  | symbol hp hs hk => exact absurd hkind.symm (symbolKind?_ne hk).2
  | _ => cases hkind

end Scans

namespace Tiled

variable {before text : List Char} {tokens : List Token}

/-- There is one end of input, at the end. -/
theorem ends (h : Tiled before text tokens) :
    ∃ ts, tokens = ts ++ [.eof (placeAfter (before ++ text))] ∧ ∀ t ∈ ts, t.kind ≠ .eof := by
  induction h with
  | stop hg => exact ⟨[], rfl, by simp⟩
  | @token before gap lexeme rest kind value tokens hg hl h ih =>
      obtain ⟨ts, rfl, hts⟩ := ih
      refine ⟨⟨kind, value, placeAfter (before ++ gap)⟩ :: ts, ?_,
        List.forall_mem_cons.2 ⟨hl.kind_ne_eof, hts⟩⟩
      simp only [List.append_assoc, List.cons_append]

/-- Every token is placed behind some part of the text. -/
theorem placed (h : Tiled before text tokens) : ∀ t ∈ tokens, ∃ left right,
    text = left ++ right ∧ t.pos = placeAfter (before ++ left) := by
  induction h with
  | stop hg =>
      intro t ht
      obtain rfl := List.mem_singleton.1 ht
      exact ⟨_, [], (List.append_nil _).symm, rfl⟩
  | @token before gap lexeme rest kind value tokens hg hl h ih =>
      intro t ht
      rcases List.mem_cons.1 ht with rfl | ht
      · exact ⟨gap, lexeme ++ rest, List.append_assoc _ _ _, rfl⟩
      · obtain ⟨left, right, rfl, hpos⟩ := ih t ht
        refine ⟨gap ++ lexeme ++ left, right, by simp only [List.append_assoc], ?_⟩
        simpa only [List.append_assoc] using hpos

/-- Every token but the end of input has a lexeme where it is placed. -/
theorem owned (h : Tiled before text tokens) : ∀ t ∈ tokens, t.kind ≠ .eof →
    ∃ left lexeme right, text = left ++ lexeme ++ right ∧ lexeme ≠ [] ∧
      t.pos = placeAfter (before ++ left) ∧ Scans lexeme right t.kind t.value := by
  induction h with
  | stop hg =>
      intro t ht hk
      obtain rfl := List.mem_singleton.1 ht
      exact absurd rfl hk
  | @token before gap lexeme rest kind value tokens hg hl h ih =>
      intro t ht hk
      rcases List.mem_cons.1 ht with rfl | ht
      · exact ⟨gap, lexeme, rest, rfl, hl.ne_nil, rfl, hl⟩
      · obtain ⟨left, lexeme', right, rfl, hne, hpos, hl'⟩ := ih t ht hk
        refine ⟨gap ++ lexeme ++ left, lexeme', right, by simp only [List.append_assoc], hne, ?_,
          hl'⟩
        simpa only [List.append_assoc] using hpos

/-- Tokens stand one behind the other. -/
theorem increasing (h : Tiled before text tokens) :
    tokens.Pairwise fun t u => t.pos.index < u.pos.index := by
  induction h with
  | stop hg => exact List.pairwise_singleton _ _
  | @token before gap lexeme rest kind value tokens hg hl h ih =>
      refine List.pairwise_cons.2 ⟨fun u hu => ?_, ih⟩
      obtain ⟨left, right, -, hpos⟩ := h.placed u hu
      have hlen := List.length_pos_iff.2 hl.ne_nil
      rw [hpos]
      simp only [placeAfter, List.length_append]
      omega

end Tiled

/-- The tokens of a source text tile it. They end with the one end of input,
which stands behind the last character, and their indexes increase. Each of them
is placed by counting the characters and the line breaks before it, and each but
the last has a lexeme there that decides its kind and its value. -/
theorem tokenize_tiles (source : String) :
    Tiled [] source.toList (tokenize source) ∧
      (∃ ts, tokenize source = ts ++ [.eof (placeAfter source.toList)] ∧
        ∀ t ∈ ts, t.kind ≠ .eof) ∧
      (placeAfter source.toList).index = source.length ∧
      ((tokenize source).Pairwise fun t u => t.pos.index < u.pos.index) ∧
      (∀ t ∈ tokenize source, ∃ before after,
        source.toList = before ++ after ∧ t.pos = placeAfter before) ∧
      ∀ t ∈ tokenize source, t.kind ≠ .eof → ∃ before lexeme after,
        source.toList = before ++ lexeme ++ after ∧ lexeme ≠ [] ∧ t.pos = placeAfter before ∧
        Scans lexeme after t.kind t.value := by
  have htiled : Tiled [] source.toList (tokenize source) := tiled_lexemes [] source.toList
  refine ⟨htiled, htiled.ends, ?_, htiled.increasing, htiled.placed, htiled.owned⟩
  show ((source.toList.length : Nat) : Int) = source.length
  rw [String.length_toList]

end StageZero
