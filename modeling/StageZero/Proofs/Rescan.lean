import StageZero.Proofs.Tiling

/-!
# Scanning a longer text

A lexeme that does not reach to the end of a text is the same in every longer
text, because its class looked at the character behind it and no further. The
last lexeme is another matter: more text can make a number longer or a comment.
Only in front of a line break does it stay, unless it is a literal that is still
open. And a text whose last token is a line break scans to the same tokens, at the
same places, whatever is written behind it.
-/

namespace StageZero

namespace Lexeme

/-- A run that ends in the text, or in front of what is behind it, is the same in the
longer text. -/
theorem takeWhile_append_of_stops {p : Char → Bool} {text more : List Char}
    (h : text.dropWhile p ≠ [] ∨ ∀ d ∈ more.head?, p d = false) :
    (text ++ more).takeWhile p = text.takeWhile p ∧
      (text ++ more).dropWhile p = text.dropWhile p ++ more := by
  induction text with
  | nil =>
      have hmore := h.resolve_left (not_not_intro rfl)
      cases more with
      | nil => exact ⟨rfl, rfl⟩
      | cons d more => simp [hmore d rfl]
  | cons c text ih =>
      by_cases hc : p c = true
      · rw [List.dropWhile_cons_of_pos hc] at h
        obtain ⟨htake, hdrop⟩ := ih h
        simp [hc, htake, hdrop]
      · simp [hc]

theorem splitBody_append_of_stops {text : List Char} (h : (splitBody text).2 ≠ [])
    (more : List Char) :
    splitBody (text ++ more) = ((splitBody text).1, (splitBody text).2 ++ more) := by
  fun_induction splitBody text with
  | case1 => exact absurd rfl h
  | case2 rest => rfl
  | case3 rest ih =>
      show splitBody ('\\' :: '"' :: (rest ++ more)) = _
      rw [splitBody, ih h]
  | case4 c rest hquote hescape ih =>
      rw [List.cons_append, splitBody, ih h]
      · exact hquote
      · intro rest' hc hrest
        -- the text behind the backslash is not empty, so its head is unchanged
        cases rest with
        | nil => exact h rfl
        | cons d rest =>
            rw [List.cons_append, List.cons.injEq] at hrest
            exact hescape rest hc (by rw [hrest.1])

theorem splitLiteral_append {text : List Char} (h : (splitBody text).2 ≠ []) (more : List Char) :
    splitLiteral (text ++ more) = ((splitLiteral text).1, (splitLiteral text).2 ++ more) := by
  have hmore := splitBody_append_of_stops h more
  cases hbody : splitBody text with
  | mk body rest =>
      rw [hbody] at h hmore
      obtain ⟨d, rest, rfl⟩ := List.exists_cons_of_ne_nil h
      simp [splitLiteral, hbody, hmore]

theorem splitLiteral_eq_open {text body : List Char} :
    (splitLiteral text).1 = .literal body false ↔ splitBody text = (body, []) := by
  unfold splitLiteral
  cases splitBody text with
  | mk body' rest => cases rest <;> simp

theorem splitSymbol_append {text more : List Char} (h : text ≠ [] ∨ more.head? = some '\n')
    (c : Char) :
    splitSymbol c (text ++ more) = ((splitSymbol c text).1, (splitSymbol c text).2 ++ more) := by
  cases text with
  | cons d rest =>
      unfold splitSymbol
      simp only [List.cons_append]
      split
      · rfl
      · split <;> rfl
  | nil =>
      obtain ⟨more, rfl⟩ := List.head?_eq_some_iff.1 (h.resolve_left (not_not_intro rfl))
      have hnone : symbolKind? [c, '\n'] = none := by
        cases hkind : symbolKind? [c, '\n'] with
        | none => rfl
        | some kind =>
            exact absurd ((symbolKind?_pair c '\n').1 (by rw [hkind]; rfl)).2 (by decide)
      rw [List.nil_append, splitSymbol, hnone, splitSymbol]
      cases symbolKind? [c] <;> rfl

/-- A lexeme is the same in a longer text if something stands behind it, or if a line
break follows and the lexeme is not an open literal, which goes across lines. -/
theorem split_append_of {c : Char} {text more : List Char}
    (h : (split c text).2 ≠ [] ∨
      more.head? = some '\n' ∧ ∀ body, (split c text).1 ≠ .literal body false) :
    split c (text ++ more) = ((split c text).1, (split c text).2 ++ more) := by
  have hne : text ≠ [] ∨ more.head? = some '\n' := by
    refine h.imp (fun hrest hnil => ?_) And.left
    have hlt := split_length_lt c text
    rw [hnil, List.length_singleton] at hlt
    rw [hnil] at hrest
    exact hrest (List.length_eq_zero_iff.1 (by omega))
  have hslash : (text ++ more).head? = some '/' ↔ text.head? = some '/' := by
    cases text with
    | cons d text => rfl
    | nil =>
        rw [List.nil_append, hne.resolve_left (not_not_intro rfl)]
        simp
  -- a run of characters other than the line break ends in front of one
  have hline : ∀ {p : Char → Bool} {run : List Char} {l : Lexeme}, p '\n' = false →
      (run.dropWhile p ≠ [] ∨ more.head? = some '\n' ∧ ∀ body, l ≠ .literal body false) →
      (run ++ more).takeWhile p = run.takeWhile p ∧
        (run ++ more).dropWhile p = run.dropWhile p ++ more := by
    intro p run l hp hrun
    refine takeWhile_append_of_stops (hrun.imp id fun hmore d hd => ?_)
    rw [hmore.1] at hd
    cases hd
    exact hp
  unfold split at h ⊢
  simp only [hslash]
  split
  · rfl
  next hn =>
  rw [if_neg hn] at h
  split
  · next hb =>
      rw [if_pos hb] at h
      obtain ⟨htake, hdrop⟩ := hline (by decide) h
      rw [htake, hdrop]
  next hb =>
  rw [if_neg hb] at h
  split
  · next hs =>
      rw [if_pos hs] at h
      have htail : (text ++ more).tail = text.tail ++ more := by
        refine List.tail_append_of_ne_nil ?_
        rintro rfl
        cases hs.2
      obtain ⟨htake, hdrop⟩ := hline (by decide) h
      rw [htail, htake, hdrop]
  next hs =>
  rw [if_neg hs] at h
  split
  · next hq =>
      rw [if_pos hq] at h
      refine splitLiteral_append (fun hnil => ?_) more
      have hopen : splitBody text = ((splitBody text).1, []) := by rw [← hnil]
      rcases h with hrest | ⟨-, hclosed⟩
      · exact hrest (by rw [splitLiteral, hopen])
      · exact hclosed _ (splitLiteral_eq_open.2 hopen)
  next hq =>
  rw [if_neg hq] at h
  split
  · next hd =>
      rw [if_pos hd] at h
      obtain ⟨htake, hdrop⟩ := hline (by decide) h
      rw [htake, hdrop]
  next hd =>
  rw [if_neg hd] at h
  split
  · next hw =>
      rw [if_pos hw] at h
      obtain ⟨htake, hdrop⟩ := hline (by decide) h
      rw [htake, hdrop]
  next hw => exact splitSymbol_append hne c

/-- A lexeme with something behind it is the same in every longer text. -/
theorem split_append {c : Char} {text : List Char} (h : (split c text).2 ≠ [])
    (more : List Char) :
    split c (text ++ more) = ((split c text).1, (split c text).2 ++ more) :=
  split_append_of (.inl h)

/-- Only a line break scans to the token of one. -/
theorem eq_newline {c : Char} {text : List Char} {value : String}
    (h : (split c text).1.token? = some (.newline, value)) : c = '\n' := by
  have hstands := stands_split c text
  unfold Stands at hstands
  rw [h] at hstands
  have hchars := split_chars c text
  rw [hstands.eq_newline, List.singleton_append, List.cons.injEq] at hchars
  exact hchars.1.symm

end Lexeme

theorem placeTokens_ne_nil (pos : Position) (ls : List Lexeme) : placeTokens pos ls ≠ [] := by
  induction ls generalizing pos with
  | nil => exact List.cons_ne_nil _ _
  | cons l ls ih =>
      unfold placeTokens
      split
      · exact List.cons_ne_nil _ _
      · exact ih _

/-- Tokens before the tokens of more lexemes, each at its place. -/
theorem exists_placeTokens (pos : Position) (ls : List Lexeme) :
    ∃ ts, ∀ more, placeTokens pos (ls ++ more) =
      ts ++ placeTokens (pos.after (ls.flatMap Lexeme.chars)) more := by
  induction ls generalizing pos with
  | nil => exact ⟨[], fun _ => rfl⟩
  | cons l ls ih =>
      obtain ⟨ts, hts⟩ := ih (pos.after l.chars)
      simp only [List.cons_append, placeTokens, hts, List.flatMap_cons, Position.after_append]
      cases l.token? with
      | none => exact ⟨ts, fun _ => rfl⟩
      | some token => exact ⟨⟨token.1, token.2, pos⟩ :: ts, fun _ => rfl⟩

/-- The tokens of a text up to a line break stay when more text is written
behind it. -/
theorem placeTokens_append {pos : Position} {text : List Char} {tokens : List Token} {last e : Token}
    (h : placeTokens pos (lexemes text) = tokens ++ [e]) (hlast : tokens.getLast? = some last)
    (hk : last.kind = .newline) (more : List Char) :
    ∃ behind, behind ≠ [] ∧ placeTokens pos (lexemes (text ++ more)) = tokens ++ behind := by
  fun_induction lexemes text generalizing pos tokens with
  | case1 =>
      cases tokens with
      | nil => cases hlast
      | cons t tokens => simp [placeTokens] at h
  | case2 c text ih =>
      -- where tokens follow the first lexeme, there is text behind it
      have hstops : ∀ {pos' : Position} {ts : List Token},
          placeTokens pos' (lexemes (Lexeme.split c text).2) = ts ++ [e] → ts ≠ [] →
          (Lexeme.split c text).2 ≠ [] := by
        intro pos' ts heq hts hnil
        obtain ⟨t, ts, rfl⟩ := List.exists_cons_of_ne_nil hts
        rw [hnil, lexemes] at heq
        simp [placeTokens] at heq
      have hne : tokens ≠ [] := by
        rintro rfl
        cases hlast
      rw [List.cons_append, lexemes]
      unfold placeTokens at h ⊢
      cases htok : (Lexeme.split c text).1.token? with
      | none =>
          rw [htok] at h
          obtain ⟨behind, hne', hbehind⟩ := ih h hlast
          rw [Lexeme.split_append (hstops h hne), htok]
          exact ⟨behind, hne', hbehind⟩
      | some token =>
          obtain ⟨kind, value⟩ := token
          rw [htok] at h
          obtain ⟨t, tokens, rfl⟩ := List.exists_cons_of_ne_nil hne
          rw [List.cons_append, List.cons.injEq] at h
          obtain ⟨rfl, h⟩ := h
          cases tokens with
          | nil =>
              -- the line break itself: what is behind it does not matter
              obtain rfl : _ = last := Option.some.inj hlast
              obtain rfl : kind = .newline := hk
              obtain rfl := Lexeme.eq_newline htok
              cases htok
              exact ⟨_, placeTokens_ne_nil _ _, rfl⟩
          | cons u tokens =>
              rw [List.getLast?_cons_cons] at hlast
              obtain ⟨behind, hne', hbehind⟩ := ih h hlast
              rw [Lexeme.split_append (hstops h (List.cons_ne_nil _ _)), htok]
              exact ⟨behind, hne', congrArg _ hbehind⟩

/-- If the last token is a line break, a line break is still to come wherever a
token stands. -/
theorem Tiled.before_line {before text : List Char} {tokens ts : List Token} {e : Token}
    (h : Tiled before text tokens) (hts : tokens = ts ++ [e]) {last : Token}
    (hlast : ts.getLast? = some last) (hk : last.kind = .newline) :
    ∀ t ∈ ts, ∃ left right, text = left ++ right ∧ '\n' ∈ right ∧
      t.pos = placeAfter (before ++ left) := by
  induction h generalizing ts with
  | stop hg =>
      cases ts with
      | nil => cases hlast
      | cons t ts => simp at hts
  | @token before gap lexeme rest kind value tokens hg hl h ih =>
      cases ts with
      | nil => cases hlast
      | cons t ts =>
          rw [List.cons_append, List.cons.injEq] at hts
          obtain ⟨rfl, hts⟩ := hts
          have hhere : '\n' ∈ lexeme ++ rest := by
            cases ts with
            | nil =>
                obtain rfl : _ = last := Option.some.inj hlast
                obtain rfl : kind = .newline := hk
                rw [hl.eq_newline]
                exact List.mem_cons_self
            | cons u ts =>
                rw [List.getLast?_cons_cons] at hlast
                obtain ⟨left, right, rfl, hmem, -⟩ := ih hts hlast u List.mem_cons_self
                exact List.mem_append_right _ (List.mem_append_right _ hmem)
          intro u hu
          rcases List.mem_cons.1 hu with rfl | hu
          · exact ⟨gap, lexeme ++ rest, List.append_assoc _ _ _, hhere, rfl⟩
          · have hlast' : ts.getLast? = some last := by
              cases ts with
              | nil => cases hu
              | cons v ts => rwa [List.getLast?_cons_cons] at hlast
            obtain ⟨left, right, rfl, hmem, hpos⟩ := ih hts hlast' u hu
            refine ⟨gap ++ lexeme ++ left, right, by simp only [List.append_assoc], hmem, ?_⟩
            simpa only [List.append_assoc] using hpos

end StageZero
