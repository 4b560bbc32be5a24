import StageZero.Proofs.Acceptance

/-!
# Semicolons at the ends of lines

A semicolon ends nothing. Where a statement is looked for it is passed over
like any other token that starts none, and behind an expression it stops the
expression just as a line break does. So a program with a semicolon put before
one of its line breaks is read as the same tree with one more token skipped,
and writes the same C.

There is one place where this fails. A branch looks over line breaks for its
alternative, and over nothing else: behind the closing brace of a branch a
semicolon hides the `else` of the next line, which is then skipped as well.
`BeforeElse` is that place, said of the tokens on its two sides. Everywhere else
the semicolon is ignored.

The trees are rebuilt from the inside. `Pads` is what a rebuilt tree of any type
owes the one it was made from; the constructors of trees keep it, and a line
break is found in a tree by cutting its yield piece by piece.
-/

namespace StageZero

namespace Tree

/-! ## The place before an alternative -/

theorem nextKindPastLines_of_lines {ts : List Token} (h : ∀ t ∈ ts, t.kind = .newline)
    (us : List Token) : nextKindPastLines (ts ++ us) = nextKindPastLines us := by
  induction ts with
  | nil => rfl
  | cons t ts ih =>
      rw [List.cons_append, nextKindPastLines_of_line (h t List.mem_cons_self)]
      exact ih fun u hu => h u (List.mem_cons_of_mem _ hu)

theorem nextKindPastLines_append {ts : List Token} (h : nextKindPastLines ts ≠ .eof)
    (us : List Token) : nextKindPastLines (ts ++ us) = nextKindPastLines ts := by
  induction ts with
  | nil => exact absurd rfl h
  | cons t ts ih =>
      by_cases ht : t.kind = .newline
      · rw [nextKindPastLines_of_line ht] at h
        rw [List.cons_append, nextKindPastLines_of_line ht, nextKindPastLines_of_line ht, ih h]
      · rw [nextKindPastLines_of_ne (by exact ht), nextKindPastLines_of_ne (by exact ht)]
        rfl

/-- Line breaks aside, the first list ends in a closing brace and the second
begins with an alternative. -/
def BeforeElse (before after : List Token) : Prop :=
  nextKindPastLines before.reverse = .rbrace ∧ nextKindPastLines after = .keyword .elseK

instance (before after : List Token) : Decidable (BeforeElse before after) :=
  inferInstanceAs (Decidable (_ ∧ _))

/-- More tokens on either side make no difference. -/
theorem BeforeElse.widen {before after : List Token} (h : BeforeElse before after)
    (front back : List Token) : BeforeElse (front ++ before) (after ++ back) := by
  constructor
  · rw [List.reverse_append, nextKindPastLines_append (by rw [h.1]; simp), h.1]
  · rw [nextKindPastLines_append (by rw [h.2]; simp), h.2]

theorem BeforeElse.widen_left {before after : List Token} (h : BeforeElse before after)
    (front : List Token) : BeforeElse (front ++ before) after := by
  simpa using h.widen front []

/-- The last token is a closing brace. -/
def EndsInBrace (ts : List Token) : Prop :=
  nextKind ts.reverse = .rbrace

theorem Block.endsInBrace (front : List Token) (b : Block) : EndsInBrace (front ++ b.yield) := by
  cases b with
  | mk opening items closing => simp [EndsInBrace, Block.yield, nextKind]

theorem Links.endsInBrace {front : List Token} (h : EndsInBrace front) (links : Links) :
    EndsInBrace (front ++ links.yield) := by
  cases links with
  | nil => simpa [Links.yield] using h
  | cons lines other word test body rest =>
      have hbody := body.endsInBrace (front ++ (lineYield lines ++ other.as (.keyword .elseK) ::
        word.as (.keyword .ifK) :: test.yield))
      simpa [Links.yield] using Links.endsInBrace hbody rest

/-! ## Cutting at a line break -/

section

variable {ts us before after : List Token} {line : Mark}

/-- A line break stands behind tokens that are none. -/
theorem Without.cut (hw : Without .newline ts)
    (h : ts ++ us = before ++ line.as .newline :: after) :
    ∃ m, before = ts ++ m ∧ us = m ++ line.as .newline :: after := by
  rcases cut_append h with ⟨m, hts, -⟩ | hcut
  · exact absurd hts (hw.ne_append rfl)
  · exact hcut

/-- A line break that does not stand between a closing brace and the alternative
stands behind the alternative's word. -/
theorem cut_alternative {front : List Token} {lines : List Mark} {word : Mark}
    (h : lineYield lines ++ word.as (.keyword .elseK) :: us = before ++ line.as .newline :: after)
    (hfront : EndsInBrace front) (hne : ¬ BeforeElse (front ++ before) after) :
    ∃ m, before = lineYield lines ++ word.as (.keyword .elseK) :: m ∧
      us = m ++ line.as .newline :: after := by
  rcases cut_append h with ⟨m, hlines, rfl⟩ | ⟨m, rfl, hm⟩
  · refine absurd ⟨?_, ?_⟩ hne
    · have hbefore : ∀ t ∈ before.reverse, t.kind = .newline := fun t ht =>
        lineYield_kind t (by rw [hlines]; exact List.mem_append_left _ (List.mem_reverse.1 ht))
      rw [List.reverse_append, nextKindPastLines_of_lines hbefore,
        nextKindPastLines_of_ne (by rw [hfront]; simp), hfront]
    · have hm : ∀ t ∈ m, t.kind = .newline := fun t ht =>
        lineYield_kind t (by rw [hlines]; exact List.mem_append_right _ (List.mem_cons_of_mem _ ht))
      rw [nextKindPastLines_of_lines hm]
      rfl
  · have hword : Without .newline [word.as (.keyword .elseK)] := by simp
    obtain ⟨m, rfl, hus⟩ := hword.cut hm
    exact ⟨m, rfl, hus⟩

end

/-! ## Trees with one more semicolon -/

/-- A tree has become another one, which is read from the given tokens: not
nested more deeply, greedy where the first was, and with the same emission. -/
structure Pads {α : Type} (yield : α → List Token) (nesting : α → Nat)
    (Fits : List Token → α → Prop) (emission : TypeTable → Nat → α → Emission) (t t' : α)
    (ts : List Token) : Prop where
  yield : yield t' = ts
  nesting : nesting t' ≤ nesting t
  fits : ∀ rest, Fits rest t → Fits rest t'
  emission : ∀ types indent, emission types indent t' = emission types indent t

abbrev Stmt.Pads := Tree.Pads Stmt.yield Stmt.nesting Stmt.Fits Stmt.emission

abbrev Block.Pads := Tree.Pads Block.yield Block.nesting (fun _ => Block.Fits) Block.emission

abbrev Items.Pads := Tree.Pads Items.yield Items.nesting Items.Fits Items.emission

abbrev Links.Pads := Tree.Pads Links.yield Links.nesting (fun _ => Links.Fits) Links.emission

abbrev Other.Pads := Tree.Pads Other.yield Other.nesting Other.Fits Other.emission

/-- What stands at the top level writes at a depth of its own. -/
abbrev ProgramPads := Tree.Pads yield nesting Fits fun types _ => emission types

/-! What is done to one piece of a tree is done to the tree. Only a statement looks
at what stands behind it, and has to be told that nothing there is for it. -/

section

variable {ts : List Token}

theorem Items.Pads.block {items items' : Items} (h : items.Pads items' ts)
    (opening closing : Mark) :
    (Block.mk opening items closing).Pads (.mk opening items' closing)
      (opening.as .lbrace :: (ts ++ [closing.as .rbrace])) where
  yield := by rw [Block.yield, h.yield]
  nesting := h.nesting
  fits _ hf := h.fits _ hf
  emission := h.emission

theorem Items.Pads.line {items items' : Items} (h : items.Pads items' ts) (mark : Mark) :
    (Items.line mark items).Pads (.line mark items') (mark.as .newline :: ts) where
  yield := by rw [Items.yield, h.yield]
  nesting := by
    have := h.nesting
    simp only [Items.nesting]
    omega
  fits := h.fits
  emission := h.emission

theorem Stmt.Pads.items {s s' : Stmt} (h : s.Pads s' ts) (rest : Items) :
    (Items.stmt s rest).Pads (.stmt s' rest) (ts ++ rest.yield) where
  yield := by rw [Items.yield, h.yield]
  nesting := by
    have := h.nesting
    simp only [Items.nesting]
    omega
  fits _ hf := ⟨h.fits _ hf.1, hf.2⟩
  emission _ _ := by simp only [Items.emission, h.emission]

theorem Items.Pads.stmt {items items' : Items} (h : items.Pads items' ts)
    (ahead : ∀ rest, NoMoreAhead (items.yield ++ rest) (ts ++ rest)) (s : Stmt) :
    (Items.stmt s items).Pads (.stmt s items') (s.yield ++ ts) where
  yield := by rw [Items.yield, h.yield]
  nesting := by
    have := h.nesting
    simp only [Items.nesting]
    omega
  fits rest hf := ⟨by rw [h.yield]; exact Stmt.fits_mono (ahead rest) hf.1, h.fits rest hf.2⟩
  emission _ _ := by simp only [Items.emission, h.emission]

theorem Block.Pads.loop {b b' : Block} (h : b.Pads b' ts) (word : Mark) (test : Test) :
    (Stmt.loop word test b).Pads (.loop word test b')
      (word.as (.keyword .whileK) :: (test.yield ++ ts)) where
  yield := by rw [Stmt.yield, h.yield]
  nesting := by
    have := h.nesting
    simp only [Stmt.nesting]
    omega
  fits rest hf := ⟨hf.1, h.fits rest hf.2⟩
  emission _ _ := by simp only [Stmt.emission, h.emission]

theorem Block.Pads.function {b b' : Block} (h : b.Pads b' ts) (word name opening : Mark)
    (params : Params) (closing : Mark) :
    (Stmt.function word name opening params closing b).Pads
      (.function word name opening params closing b')
      (word.as (.keyword .functionK) :: name.as .identifier :: opening.as .lparen ::
        (params.yield ++ closing.as .rparen :: ts)) where
  yield := by rw [Stmt.yield, h.yield]
  nesting := by
    have := h.nesting
    simp only [Stmt.nesting]
    omega
  fits := h.fits
  emission _ _ := by simp only [Stmt.emission, h.emission]

theorem Block.Pads.branch {b b' : Block} (h : b.Pads b' ts) (word : Mark) (test : Test)
    (links : Links) (other : Other) :
    (Stmt.branch word test b links other).Pads (.branch word test b' links other)
      (word.as (.keyword .ifK) :: (test.yield ++ ts ++ links.yield ++ other.yield)) where
  yield := by rw [Stmt.yield, h.yield]
  nesting := by
    have := h.nesting
    simp only [Stmt.nesting]
    omega
  fits rest hf := ⟨hf.1, h.fits rest hf.2.1, hf.2.2⟩
  emission _ _ := by simp only [Stmt.emission, h.emission]

theorem Links.Pads.branch {links links' : Links} (h : links.Pads links' ts) (word : Mark)
    (test : Test) (body : Block) (other : Other) :
    (Stmt.branch word test body links other).Pads (.branch word test body links' other)
      (word.as (.keyword .ifK) :: (test.yield ++ body.yield ++ ts ++ other.yield)) where
  yield := by rw [Stmt.yield, h.yield]
  nesting := by
    have := h.nesting
    simp only [Stmt.nesting]
    omega
  fits rest hf := ⟨hf.1, hf.2.1, h.fits rest hf.2.2.1, hf.2.2.2⟩
  emission _ _ := by simp only [Stmt.emission, h.emission]

theorem Other.Pads.branch {other other' : Other} (h : other.Pads other' ts) (word : Mark)
    (test : Test) (body : Block) (links : Links) :
    (Stmt.branch word test body links other).Pads (.branch word test body links other')
      (word.as (.keyword .ifK) :: (test.yield ++ body.yield ++ links.yield ++ ts)) where
  yield := by rw [Stmt.yield, h.yield]
  nesting := by
    have := h.nesting
    simp only [Stmt.nesting]
    omega
  fits rest hf := ⟨hf.1, hf.2.1, hf.2.2.1, h.fits rest hf.2.2.2⟩
  emission _ _ := by simp only [Stmt.emission, h.emission]

theorem Block.Pads.link {b b' : Block} (h : b.Pads b' ts) (lines : List Mark) (other word : Mark)
    (test : Test) (rest : Links) :
    (Links.cons lines other word test b rest).Pads (.cons lines other word test b' rest)
      (lineYield lines ++ other.as (.keyword .elseK) :: word.as (.keyword .ifK) ::
        (test.yield ++ ts ++ rest.yield)) where
  yield := by rw [Links.yield, h.yield]
  nesting := by
    have := h.nesting
    simp only [Links.nesting]
    omega
  fits r hf := ⟨hf.1, h.fits r hf.2.1, hf.2.2⟩
  emission _ _ := by simp only [Links.emission, h.emission]

theorem Links.Pads.link {rest rest' : Links} (h : rest.Pads rest' ts) (lines : List Mark)
    (other word : Mark) (test : Test) (body : Block) :
    (Links.cons lines other word test body rest).Pads (.cons lines other word test body rest')
      (lineYield lines ++ other.as (.keyword .elseK) :: word.as (.keyword .ifK) ::
        (test.yield ++ body.yield ++ ts)) where
  yield := by rw [Links.yield, h.yield]
  nesting := by
    have := h.nesting
    simp only [Links.nesting]
    omega
  fits r hf := ⟨hf.1, hf.2.1, h.fits r hf.2.2⟩
  emission _ _ := by simp only [Links.emission, h.emission]

theorem Block.Pads.other {b b' : Block} (h : b.Pads b' ts) (lines : List Mark) (word : Mark) :
    (Other.some lines word b).Pads (.some lines word b')
      (lineYield lines ++ word.as (.keyword .elseK) :: ts) where
  yield := by rw [Other.yield, h.yield]
  nesting := by
    have := h.nesting
    simp only [Other.nesting]
    omega
  fits := h.fits
  emission _ _ := by simp only [Other.emission, h.emission]

theorem Stmt.Pads.program {s s' : Stmt} (h : s.Pads s' ts) (p : Program) :
    ProgramPads (.stmt s :: p) (.stmt s' :: p) (ts ++ Tree.yield p) where
  yield := by rw [yield_cons, Top.yield, h.yield]
  nesting := by
    have := h.nesting
    simp only [Tree.nesting, Top.nesting]
    omega
  fits _ hf := ⟨h.fits _ hf.1, hf.2⟩
  emission _ _ := by simp only [Tree.emission, Top.emission, h.emission]

theorem ProgramPads.cons {p p' : Program} (h : ProgramPads p p' ts)
    (ahead : ∀ rest, NoMoreAhead (yield p ++ rest) (ts ++ rest)) (t : Top) :
    ProgramPads (t :: p) (t :: p') (t.yield ++ ts) where
  yield := by rw [yield_cons, h.yield]
  nesting := by
    have := h.nesting
    simp only [Tree.nesting]
    omega
  fits rest hf := by
    refine ⟨?_, h.fits rest hf.2⟩
    cases t with
    | line mark => trivial
    | stray mark => trivial
    | stmt s =>
        rw [h.yield]
        exact Stmt.fits_mono (ahead rest) hf.1
  emission types indent := by
    have hrest := fun types => h.emission types indent
    simp only [Tree.emission, hrest]

end

/-! ## A semicolon before a line break -/

/-- The statement that a semicolon is. -/
def Stmt.semicolon (m : Mark) : Stmt :=
  .skipped (m.as .semicolon) rfl

theorem Stmt.emission_semicolon (m : Mark) (types : TypeTable) (indent : Nat) :
    (Stmt.semicolon m).emission types indent = .empty := by
  simp [Stmt.semicolon, Stmt.emission]

section

variable (semicolon line : Mark)

/-- A semicolon before a line break offers a statement nothing. -/
theorem noMoreAhead_semicolon (m after rest : List Token) :
    NoMoreAhead (m ++ line.as .newline :: after ++ rest)
      (m ++ semicolon.as .semicolon :: line.as .newline :: after ++ rest) := by
  induction m with
  | nil => exact ⟨by simp [nextKind, TokenKind.startsPart], by simp [nextKindPastLines, nextKind]⟩
  | cons t m ih =>
      refine ⟨fun _ => rfl, ?_⟩
      by_cases ht : t.kind = .newline
      · simp only [List.cons_append, nextKindPastLines_of_line ht]
        exact ih.pastLines
      · rw [nextKindPastLines_of_ne (by exact ht), nextKindPastLines_of_ne (by exact ht)]
        exact id

/-- Where a line break may stand a semicolon may stand before it. -/
theorem Items.pads_line (rest : Items) :
    (Items.line line rest).Pads (.stmt (.semicolon semicolon) (.line line rest))
      (semicolon.as .semicolon :: line.as .newline :: rest.yield) where
  yield := rfl
  nesting := by
    simp only [Items.nesting, Stmt.semicolon, Stmt.nesting]
    omega
  fits _ hf := ⟨trivial, hf⟩
  emission types indent := by
    show Stmt.emission types indent _ ++ _ = _
    rw [Stmt.emission_semicolon]
    exact Emission.empty_append _

theorem programPads_line (p : Program) :
    ProgramPads (.line line :: p) (.stmt (.semicolon semicolon) :: .line line :: p)
      (semicolon.as .semicolon :: line.as .newline :: yield p) where
  yield := rfl
  nesting := by
    simp only [Tree.nesting, Top.nesting, Stmt.semicolon, Stmt.nesting]
    omega
  fits _ hf := ⟨trivial, hf⟩
  emission types _ := by
    show Stmt.emission types 1 _ ++ _ = _
    rw [Stmt.emission_semicolon]
    exact Emission.empty_append _

mutual

/-- The line break is found in the tree, and the tree is rebuilt around it. -/
theorem Stmt.exists_pads : (s : Stmt) → ∀ {before after : List Token},
    s.yield = before ++ line.as .newline :: after → ¬ BeforeElse before after →
    ∃ s', s.Pads s' (before ++ semicolon.as .semicolon :: line.as .newline :: after)
  | .loop word test body, before, after, h, hne => by
      have hw : Without .newline (word.as (.keyword .whileK) :: test.yield) := by
        simp [Test.yield]
      obtain ⟨m, rfl, hm⟩ := hw.cut h
      obtain ⟨body', hb⟩ := body.exists_pads hm fun h => hne (h.widen_left _)
      exact ⟨_, by simpa using hb.loop word test⟩
  | .branch word test body links other, before, after, h, hne => by
      have h' : (word.as (.keyword .ifK) :: test.yield) ++
          (body.yield ++ (links.yield ++ other.yield)) = before ++ line.as .newline :: after := by
        simpa [Stmt.yield] using h
      obtain ⟨m₁, rfl, h₁⟩ := Without.cut (by simp [Test.yield]) h'
      -- the alternatives have the body's brace before them, which rules out their own line breaks
      have hfront := body.endsInBrace (word.as (.keyword .ifK) :: test.yield)
      rcases cut_append h₁ with ⟨m, hbody, rfl⟩ | ⟨m₂, rfl, h₂⟩
      · obtain ⟨body', hb⟩ := body.exists_pads hbody fun h => hne (h.widen _ _)
        exact ⟨_, by simpa using hb.branch word test links other⟩
      rcases cut_append h₂ with ⟨m, hlinks, rfl⟩ | ⟨m, rfl, hother⟩
      · obtain ⟨links', hk⟩ := links.exists_pads hfront hlinks fun h => hne (by
          simpa using h.widen [] other.yield)
        exact ⟨_, by simpa using hk.branch word test body other⟩
      · obtain ⟨other', ho⟩ := other.exists_pads (Links.endsInBrace hfront links) hother
          fun h => hne (by simpa using h)
        exact ⟨_, by simpa using ho.branch word test body links⟩
  | .function word name opening params closing body, before, after, h, hne => by
      have h' : (word.as (.keyword .functionK) :: name.as .identifier :: opening.as .lparen ::
          (params.yield ++ [closing.as .rparen])) ++ body.yield =
            before ++ line.as .newline :: after := by
        simpa [Stmt.yield] using h
      have hw : Without .newline params.yield :=
        without_of_inExpression params.inExpression_yield rfl
      obtain ⟨m, rfl, hm⟩ := Without.cut (by simp [hw]) h'
      obtain ⟨body', hb⟩ := body.exists_pads hm fun h => hne (h.widen_left _)
      exact ⟨_, by simpa using hb.function word name opening params closing⟩
  | .skipped tok hk, before, after, h, _ => by
      have hline : tok.kind ≠ .newline := by
        intro hline
        rw [hline] at hk
        cases hk
      exact absurd h (Without.ne_append (by simpa [Stmt.yield] using hline) rfl)
  | .declare _ _ _ _, _, _, h, _ | .print _ _, _, _, h, _ | .give _ _, _, _, h, _
  | .writeFile _ _ _ _ _ _, _, _, h, _ | .readFile _ _ _ _, _, _, h, _ | .assign _ _ _, _, _, h, _
  | .call _ _ _ _, _, _, h, _ | .idle _, _, _, h, _ =>
      absurd h (Without.ne_append (by simp [Stmt.yield]) rfl)

theorem Block.exists_pads : (b : Block) → ∀ {before after : List Token},
    b.yield = before ++ line.as .newline :: after → ¬ BeforeElse before after →
    ∃ b', b.Pads b' (before ++ semicolon.as .semicolon :: line.as .newline :: after)
  | .mk opening items closing, before, after, h, hne => by
      have hw : Without .newline [opening.as .lbrace] := by simp
      obtain ⟨m, rfl, hm⟩ := hw.cut h
      rcases cut_append hm with ⟨m', hitems, rfl⟩ | ⟨m', rfl, hclosing⟩
      · obtain ⟨items', hi⟩ := items.exists_pads hitems fun h => hne (h.widen _ _)
        exact ⟨_, by simpa using hi.block opening closing⟩
      · exact absurd hclosing (Without.ne_append (by simp) rfl)

theorem Items.exists_pads : (items : Items) → ∀ {before after : List Token},
    items.yield = before ++ line.as .newline :: after → ¬ BeforeElse before after →
    ∃ items', items.Pads items' (before ++ semicolon.as .semicolon :: line.as .newline :: after)
  | .nil, before, after, h, _ => by simp [Items.yield] at h
  | .line mark rest, before, after, h, hne => by
      rcases List.cons_eq_append_iff.1 h with ⟨rfl, hline⟩ | ⟨m, rfl, hm⟩
      · rw [hline]
        exact ⟨_, rest.pads_line semicolon mark⟩
      · obtain ⟨rest', hr⟩ := rest.exists_pads hm fun h => hne (h.widen_left [mark.as .newline])
        exact ⟨_, hr.line mark⟩
  | .stmt s rest, before, after, h, hne => by
      rcases cut_append h with ⟨m, hs, rfl⟩ | ⟨m, rfl, hm⟩
      · obtain ⟨s', hs⟩ := s.exists_pads hs fun h => hne (by simpa using h.widen [] rest.yield)
        exact ⟨_, by simpa using hs.items rest⟩
      · obtain ⟨rest', hr⟩ := rest.exists_pads hm fun h => hne (h.widen_left _)
        -- the statement before sees other tokens now, but takes none of them
        have ahead := noMoreAhead_semicolon semicolon line m after
        rw [← hm] at ahead
        exact ⟨_, by simpa using hr.stmt ahead s⟩

theorem Links.exists_pads : (links : Links) → ∀ {front before after : List Token},
    EndsInBrace front → links.yield = before ++ line.as .newline :: after →
    ¬ BeforeElse (front ++ before) after →
    ∃ links', links.Pads links' (before ++ semicolon.as .semicolon :: line.as .newline :: after)
  | .nil, front, before, after, _, h, _ => by simp [Links.yield] at h
  | .cons lines other word test body rest, front, before, after, hfront, h, hne => by
      obtain ⟨m₁, rfl, h₁⟩ := cut_alternative h hfront hne
      have h' : (word.as (.keyword .ifK) :: test.yield) ++ (body.yield ++ rest.yield) =
          m₁ ++ line.as .newline :: after := by
        simpa using h₁
      obtain ⟨m₂, rfl, h₂⟩ := Without.cut (by simp [Test.yield]) h'
      rcases cut_append h₂ with ⟨m, hbody, rfl⟩ | ⟨m, rfl, hrest⟩
      · obtain ⟨body', hb⟩ := body.exists_pads hbody fun h => hne (by
          simpa using h.widen (front ++ (lineYield lines ++ other.as (.keyword .elseK) ::
            word.as (.keyword .ifK) :: test.yield)) rest.yield)
        exact ⟨_, by simpa using hb.link lines other word test rest⟩
      · have hends := body.endsInBrace (front ++ (lineYield lines ++ other.as (.keyword .elseK) ::
          word.as (.keyword .ifK) :: test.yield))
        obtain ⟨rest', hr⟩ := rest.exists_pads hends hrest fun h => hne (by simpa using h)
        exact ⟨_, by simpa using hr.link lines other word test body⟩

theorem Other.exists_pads : (other : Other) → ∀ {front before after : List Token},
    EndsInBrace front → other.yield = before ++ line.as .newline :: after →
    ¬ BeforeElse (front ++ before) after →
    ∃ other', other.Pads other' (before ++ semicolon.as .semicolon :: line.as .newline :: after)
  | .none, front, before, after, _, h, _ => by simp [Other.yield] at h
  | .some lines word body, front, before, after, hfront, h, hne => by
      obtain ⟨m, rfl, hm⟩ := cut_alternative h hfront hne
      obtain ⟨body', hb⟩ := body.exists_pads hm fun h => hne (by
        simpa using h.widen_left (front ++ (lineYield lines ++ [word.as (.keyword .elseK)])))
      exact ⟨_, by simpa using hb.other lines word⟩

end

theorem exists_pads (p : Program) {before after : List Token}
    (h : yield p = before ++ line.as .newline :: after) (hne : ¬ BeforeElse before after) :
    ∃ p', ProgramPads p p' (before ++ semicolon.as .semicolon :: line.as .newline :: after) := by
  induction p generalizing before with
  | nil => simp [yield] at h
  | cons t p ih =>
      rw [yield_cons] at h
      rcases cut_append h with ⟨m, ht, rfl⟩ | ⟨m, rfl, hm⟩
      · cases t with
        | line mark =>
            rcases List.cons_eq_append_iff.1 ht with ⟨rfl, hline⟩ | ⟨m', -, hnil⟩
            · injection hline with hmark hm
              rw [hmark, hm]
              exact ⟨_, programPads_line semicolon mark p⟩
            · simp at hnil
        | stray mark => exact absurd ht (Without.ne_append (by simp [Top.yield]) rfl)
        | stmt s =>
            obtain ⟨s', hs⟩ := s.exists_pads semicolon line ht fun h => hne (by
              simpa using h.widen [] (yield p))
            exact ⟨_, by simpa using hs.program p⟩
      · obtain ⟨p', hp⟩ := ih hm fun h => hne (h.widen_left _)
        have ahead := noMoreAhead_semicolon semicolon line m after
        rw [← hm] at ahead
        exact ⟨_, by simpa using ProgramPads.cons hp ahead t⟩

end

end Tree

open StageZero.Tree

/-! ## Runs with one more semicolon -/

/-- What has been written is settled by the emission. -/
theorem Wrote.unique {report : Report} {e : Emission} {s s' : State} (h : Wrote report e s)
    (h' : Wrote report e s') :
    s'.output.main = s.output.main ∧ s'.output.functions = s.output.functions ∧
      s'.output.names = s.output.names ∧ s'.types = s.types ∧ s'.report = s.report :=
  ⟨Array.toList_inj.1 (h'.main.trans h.main.symm),
    Array.toList_inj.1 (h'.functions.trans h.functions.symm),
    Array.toList_inj.1 (h'.names.trans h.names.symm),
    h'.types.trans h.types.symm, h'.report.trans h.report.symm⟩

/-- The end of input hides no alternative that was not there. -/
theorem Tree.BeforeElse.of_beforeEnd {before after : List Token}
    (h : BeforeElse before (beforeEnd after)) : BeforeElse before after := by
  have hsplit : beforeEnd after ++ after.dropWhile (fun t => t.kind ≠ .eof) = after :=
    List.takeWhile_append_dropWhile
  have := h.widen [] (after.dropWhile fun t => t.kind ≠ .eof)
  rwa [hsplit, List.nil_append] at this

/-- A run that succeeds also succeeds with a semicolon put before one of its line
breaks, and comes to the same: the same lines, functions, names and types, and
no new warning. The line break is any one before the end of input that does not
part a closing brace from an alternative. -/
theorem semicolons_are_ignored {depth : Nat} {before after : List Token} {semicolon line : Token}
    {report : Report} {debug : Bool} {s : State} (hs : semicolon.kind = .semicolon)
    (hl : line.kind = .newline) (hb : ∀ t ∈ before, t.kind ≠ .eof) (hne : ¬ BeforeElse before after)
    (h : Gen.run depth (.ofTokens (before ++ line :: after) report debug) = .ok () s) :
    ∃ s', Gen.run depth (.ofTokens (before ++ semicolon :: line :: after) report debug) =
        .ok () s' ∧
      s'.output.main = s.output.main ∧ s'.output.functions = s.output.functions ∧
      s'.output.names = s.output.names ∧ s'.types = s.types ∧ s'.report = s.report := by
  obtain ⟨semicolon, rfl⟩ := exists_mark hs
  obtain ⟨line, rfl⟩ := exists_mark hl
  have hend : ∀ ts, beforeEnd (before ++ ts) = before ++ beforeEnd ts := beforeEnd_of_without hb
  obtain ⟨p, c, hp, hw⟩ := Gen.of_run_ofTokens h
  have hy : yield p = before ++ line.as .newline :: beforeEnd after := by
    rw [hp.yield_eq, hend]
    rfl
  obtain ⟨p', hpads⟩ := exists_pads semicolon line p hy fun hbe => hne hbe.of_beforeEnd
  have hy' : yield p' =
      beforeEnd (before ++ semicolon.as .semicolon :: line.as .newline :: after) := by
    rw [hpads.yield, hend]
    rfl
  obtain ⟨c', hp'⟩ := exists_programAt hy' (hpads.fits [] hp.fits_nil)
    (Nat.le_trans hpads.nesting hp.nesting)
  obtain ⟨s', hrun, hw'⟩ := Gen.run_ofTokens report debug hp'
  rw [show emission {} p' = emission {} p from hpads.emission {} 1] at hw'
  exact ⟨s', hrun, hw.unique hw'⟩

/-- The beginning of a branch, up to the end of a line: `if (x) { print 1`. -/
def branchTokens : List Token :=
  [⟨.keyword .ifK, "if", .start⟩, ⟨.lparen, "(", .start⟩, ⟨.identifier, "x", .start⟩,
    ⟨.rparen, ")", .start⟩, ⟨.lbrace, "\x7b", .start⟩, ⟨.keyword .printK, "print", .start⟩,
    ⟨.integer, "1", .start⟩]

/-- An alternative: `else { print x }`. -/
def elseTokens : List Token :=
  [⟨.keyword .elseK, "else", .start⟩, ⟨.lbrace, "\x7b", .start⟩,
    ⟨.keyword .printK, "print", .start⟩, ⟨.identifier, "x", .start⟩, ⟨.rbrace, "\x7d", .start⟩]

def lineToken : Token := ⟨.newline, "\\n", .start⟩

def braceToken : Token := ⟨.rbrace, "\x7d", .start⟩

def semicolonToken : Token := ⟨.semicolon, ";", .start⟩

/-- A run over the branch and its alternative. There is a line break before the
brace that parts them and one behind it, and before each there is room for more
tokens. -/
abbrev branchRun (first second : List Token) : EStateM.Result Failure State Unit :=
  Gen.run 2 (.ofTokens (branchTokens ++ (first ++ lineToken :: braceToken :: (second ++
    lineToken :: elseTokens))) (.ofSource "") false)

theorem semicolons_are_ignored_branch :
    ¬ BeforeElse branchTokens (braceToken :: lineToken :: elseTokens) ∧
    ∃ s s', branchRun [] [] = .ok () s ∧ branchRun [semicolonToken] [] = .ok () s' ∧
      s'.output.main = s.output.main ∧ s'.output.functions = s.output.functions ∧
      s'.output.names = s.output.names ∧ s'.types = s.types ∧ s'.report = s.report := by
  have hne : ¬ BeforeElse branchTokens (braceToken :: lineToken :: elseTokens) := by decide
  have hok : succeeds (branchRun [] []) = true := by decide +kernel
  obtain ⟨_, s, hrun⟩ := exists_of_succeeds hok
  have hsemicolon : semicolonToken.kind = .semicolon := rfl
  obtain ⟨s', hrun', hsame⟩ := semicolons_are_ignored hsemicolon rfl (by decide) hne hrun
  exact ⟨hne, s, s', hrun, hrun', hsame⟩

/-- Before the alternative a semicolon is not ignored: the `else` is lost, and
what it guarded is always done. -/
theorem semicolon_hides_else :
    BeforeElse (branchTokens ++ [lineToken, braceToken]) elseTokens ∧
    ∃ s s', branchRun [] [] = .ok () s ∧ branchRun [] [semicolonToken] = .ok () s' ∧
      s.output.main.toList =
        ["    if (x) \x7b\n", "        __wear_print_int(1);\n", "    \x7d\n",
          "    else \x7b\n", "        __wear_print_int(x);\n", "    \x7d\n"] ∧
      s'.output.main.toList =
        ["    if (x) \x7b\n", "        __wear_print_int(1);\n", "    \x7d\n",
          "    __wear_print_int(x);\n"] := by
  have hok : succeeds (branchRun [] []) = true ∧
      succeeds (branchRun [] [semicolonToken]) = true := by
    decide +kernel
  obtain ⟨_, s, hrun⟩ := exists_of_succeeds hok.1
  obtain ⟨_, s', hrun'⟩ := exists_of_succeeds hok.2
  have hs : s = ending (branchRun [] []) := by rw [hrun]; rfl
  have hs' : s' = ending (branchRun [] [semicolonToken]) := by rw [hrun']; rfl
  refine ⟨by decide, s, s', hrun, hrun', ?_, ?_⟩
  · rw [hs]
    decide +kernel
  · rw [hs']
    decide +kernel

end StageZero
