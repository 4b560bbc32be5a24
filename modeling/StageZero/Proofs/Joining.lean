import StageZero.Proofs.Literals
import StageZero.Proofs.Rescan

/-!
# Texts joined by a line break

A session keeps its lines apart and scans them joined. That the tokens of a joined
text are the tokens of its parts, with a line break between them, is not a matter of
course: literals go across lines, and numbers, words and comments go as far as they
can.

A line break is a character that continues no lexeme but one, the literal that is not
closed. So a text is cut at every line break behind a text that does not end in such
a literal. The lexemes before the line break are those of the first text alone, and
behind it scanning begins anew, only that the places are counted from there. A text
that ends in an open literal is never cut, whatever is behind it.
-/

namespace StageZero

/-! ## Places that are moved -/

/-- A place so many characters and lines further on, in the same column. -/
def Position.shift (index line : Int) (p : Position) : Position :=
  ⟨p.index + index, p.line + line, p.column⟩

def Token.shift (index line : Int) (t : Token) : Token :=
  { t with pos := t.pos.shift index line }

namespace Position

variable (index line : Int) (p : Position)

theorem step_shift (c : Char) : (p.shift index line).step c = (p.step c).shift index line := by
  unfold step
  split <;> simp only [shift, mk.injEq, and_true] <;> omega

theorem after_shift (text : List Char) :
    (p.shift index line).after text = (p.after text).shift index line := by
  induction text generalizing p with
  | nil => rfl
  | cons c text ih => rw [after_cons, after_cons, step_shift, ih]

end Position

/-- Behind a line break a source begins anew, so many characters and lines further
on. -/
theorem placeAfter_newline (before : List Char) :
    placeAfter (before ++ ['\n']) =
      Position.start.shift (before.length + 1) (before.count '\n' + 1) := by
  simp only [placeAfter, Position.start, Position.shift, List.length_append, List.count_append,
    List.reverse_append, List.length_singleton, List.count_singleton_self, Position.mk.injEq]
  refine ⟨by omega, by omega, ?_⟩
  simp

theorem placeTokens_shift (index line : Int) (pos : Position) (ls : List Lexeme) :
    placeTokens (pos.shift index line) ls = (placeTokens pos ls).map (.shift index line) := by
  induction ls generalizing pos with
  | nil => rfl
  | cons l ls ih =>
      rw [placeTokens, placeTokens, Position.after_shift, ih]
      split <;> rfl

/-! ## The cut at a line break -/

/-- A text is cut at a line break, unless it comes to be inside an open literal. -/
theorem lexemes_append_newline {text : List Char} (h : ∀ body, .literal body false ∉ lexemes text)
    (more : List Char) :
    lexemes (text ++ '\n' :: more) = lexemes text ++ .newline :: lexemes more := by
  fun_induction lexemes text with
  | case1 => rw [List.nil_append, lexemes, Lexeme.split, if_pos rfl, List.nil_append]
  | case2 c text ih =>
      have hfirst : ∀ body, (Lexeme.split c text).1 ≠ .literal body false := fun body heq =>
        h body (heq ▸ List.mem_cons_self)
      rw [List.cons_append, lexemes, Lexeme.split_append_of (.inr ⟨rfl, hfirst⟩),
        ih fun body hmem => h body (List.mem_cons_of_mem _ hmem), List.cons_append]

/-! ## Open literals -/

namespace Lexeme

theorem splitSymbol_ne_literal (c : Char) (text body : List Char) (closed : Bool) :
    (splitSymbol c text).1 ≠ .literal body closed := by
  unfold splitSymbol
  repeat' split
  all_goals simp

/-- A literal is left open only at the end of a text. -/
theorem splitBody_of_open {c : Char} {text body : List Char}
    (h : (split c text).1 = .literal body false) :
    splitBody text = (body, []) ∧ (split c text).2 = [] := by
  unfold split at h ⊢
  split at h
  · cases h
  next hn =>
  split at h
  · cases h
  next hb =>
  split at h
  · cases h
  next hs =>
  split at h
  · next hq =>
      have hbody := splitLiteral_eq_open.1 h
      rw [if_neg hn, if_neg hb, if_neg hs, if_pos hq]
      exact ⟨hbody, by rw [splitLiteral, hbody]⟩
  split at h
  · cases h
  split at h
  · cases h
  · exact absurd h (splitSymbol_ne_literal c text body false)

end Lexeme

/-- An open literal is the last lexeme, and no quote in it closes it. -/
theorem lexemes_of_open {text body : List Char} (h : .literal body false ∈ lexemes text) :
    QuotesEscaped body ∧ ∃ ls, lexemes text = ls ++ [.literal body false] := by
  fun_induction lexemes text with
  | case1 => cases h
  | case2 c text ih =>
      rcases List.mem_cons.1 h with hfirst | hrest
      · obtain ⟨hbody, hnil⟩ := Lexeme.splitBody_of_open hfirst.symm
        have hq := Lexeme.quotesEscaped_splitBody text
        rw [hbody] at hq
        refine ⟨hq, [], ?_⟩
        rw [hnil, lexemes, ← hfirst]
        rfl
      · obtain ⟨hq, ls, hls⟩ := ih hrest
        exact ⟨hq, (Lexeme.split c text).1 :: ls, by rw [hls]; rfl⟩

/-- The last token of a source is a string without its closing quote. -/
def EndsOpen (source : String) : Prop :=
  ∃ before lexeme value ts, source.toList = before ++ lexeme ∧ Scans lexeme [] .string value ∧
    ¬ Closed lexeme ∧
    tokenize source = ts ++ [⟨.string, value, placeAfter before⟩, .eof (placeAfter source.toList)]

/-- The tokens of a source, the end of input apart, and what is behind them if there
are more lexemes. -/
theorem exists_tokenize (source : String) :
    ∃ ts, tokenize source = ts ++ [.eof (placeAfter source.toList)] ∧
      ∀ more, placeTokens .start (lexemes source.toList ++ more) =
        ts ++ placeTokens (placeAfter source.toList) more := by
  obtain ⟨ts, hts⟩ := exists_placeTokens .start (lexemes source.toList)
  have hend : Position.start.after ((lexemes source.toList).flatMap Lexeme.chars) =
      placeAfter source.toList := by
    rw [lexemes_tile]
    exact after_placeAfter [] source.toList
  rw [hend] at hts
  refine ⟨ts, ?_, hts⟩
  rw [tokenize, ← List.append_nil (lexemes _), hts]
  rfl

theorem endsOpen_of_mem {source : String} {body : List Char}
    (h : .literal body false ∈ lexemes source.toList) : EndsOpen source := by
  obtain ⟨hq, ls, hls⟩ := lexemes_of_open h
  have htext := lexemes_tile source.toList
  rw [hls, List.flatMap_append, List.flatMap_singleton] at htext
  obtain ⟨ts, hts⟩ := exists_placeTokens .start ls
  refine ⟨ls.flatMap Lexeme.chars, '"' :: body, _, ts, ?_, .unclosed hq, ?_, ?_⟩
  · rw [← htext]
    simp [Lexeme.chars]
  · rintro ⟨body', hbody, hlast⟩
    obtain rfl := (List.cons.inj hbody).2
    exact hlast (hq body' [] rfl)
  · have hplace : Position.start.after (ls.flatMap Lexeme.chars) =
        placeAfter (ls.flatMap Lexeme.chars) := after_placeAfter [] _
    rw [tokenize, hls, hts, hplace, ← htext]
    show ts ++ [_, .eof ((placeAfter (ls.flatMap Lexeme.chars)).after _)] = _
    rw [after_placeAfter]

/-- A string that is left open has another value in a longer text. -/
theorem notMem_tokenize_append {source value : String} {before lexeme : List Char}
    (htext : source.toList = before ++ lexeme) (h : Scans lexeme [] .string value)
    (hopen : ¬ Closed lexeme) (b : String) :
    ⟨.string, value, placeAfter before⟩ ∉ tokenize (source ++ "\n" ++ b) := by
  intro hmem
  have htiled : Tiled [] (source ++ "\n" ++ b).toList (tokenize (source ++ "\n" ++ b)) :=
    tiled_lexemes [] _
  obtain ⟨left, lexeme', right, heq, -, hpos, h'⟩ := htiled.owned _ hmem (by simp)
  rw [String.toList_append, String.toList_append, htext, List.append_assoc, List.append_assoc,
    List.append_assoc] at heq
  have hlen : before.length = left.length := by
    have := congrArg Position.index hpos
    simp only [placeAfter, List.nil_append] at this
    omega
  obtain ⟨-, heq⟩ := List.append_inj heq hlen
  have hcopy : cString value = String.ofList (lexeme ++ ['"']) := by
    rcases h.cString_eq with ⟨hclosed, -⟩ | ⟨-, -, hcopy⟩
    · exact absurd hclosed hopen
    · exact hcopy
  rcases h'.cString_eq with ⟨-, hcopy'⟩ | ⟨-, rfl, hcopy'⟩
  · -- the literal would be closed where the line break stands
    obtain rfl : lexeme ++ ['"'] = lexeme' := String.ofList_injective (hcopy.symm.trans hcopy')
    rw [List.append_assoc] at heq
    have hhead := List.append_cancel_left heq
    simp at hhead
  · have hsame := String.ofList_injective (hcopy.symm.trans hcopy')
    obtain rfl := List.append_cancel_right hsame
    simp at heq

/-- The tokens of two texts joined by a line break are those of the first, the line
break in the place of its end, and those of the second, as many characters and lines
further on as stand before them. So it is if the first text does not end in a string
that is left open, and only then. -/
theorem tokenize_joined (a b : String) :
    ∃ ts p, tokenize a = ts ++ [.eof p] ∧ p.index = (a.length : Int) ∧
      (¬ EndsOpen a ↔ tokenize (a ++ "\n" ++ b) = ts ++ ⟨.newline, "\\n", p⟩ ::
        (tokenize b).map (.shift (a.length + 1) (a.toList.count '\n' + 1))) := by
  obtain ⟨ts, hts, hmore⟩ := exists_tokenize a
  refine ⟨ts, placeAfter a.toList, hts, ?_, fun hclosed => ?_, fun htokens hopen => ?_⟩
  · rw [← String.length_toList]
    rfl
  · have hcut := lexemes_append_newline
      (fun body hmem => hclosed (endsOpen_of_mem hmem)) b.toList
    rw [tokenize, String.toList_append, String.toList_append, List.append_assoc]
    show placeTokens .start (lexemes (a.toList ++ '\n' :: b.toList)) = _
    rw [hcut, hmore]
    show ts ++ ⟨.newline, "\\n", _⟩ :: placeTokens ((placeAfter a.toList).after ['\n']) _ = _
    rw [after_placeAfter, placeAfter_newline, placeTokens_shift, String.length_toList]
    rfl
  · obtain ⟨before, lexeme, value, us, htext, hscans, hlexeme, hus⟩ := hopen
    refine notMem_tokenize_append htext hscans hlexeme b ?_
    have hfront : ts = us ++ [⟨.string, value, placeAfter before⟩] := by
      rw [hts] at hus
      exact List.append_cancel_right (hus.trans (List.append_cons ..))
    rw [htokens, hfront]
    simp

end StageZero
