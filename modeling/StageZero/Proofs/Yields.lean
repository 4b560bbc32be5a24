import StageZero.Proofs.Emission

/-!
# What a yield is made of

A tree keeps all of its tokens, and which kinds they can be is known from the
tree. An expression holds no word that opens a statement, no line break and no
end of input; a statement holds no end of input, does not end in a line break,
and its opening words are those of the statements it is made of, each of them
once and in order.
-/

namespace StageZero

namespace TokenKind

/-- Kinds of the tokens that expressions are made of. -/
def inExpression : TokenKind → Bool
  | .rparen | .comma => true
  | kind => kind.startsPart

/-- Kinds of the words that open a statement. -/
def opensStatement : TokenKind → Bool
  | .keyword word => word ≠ .elseK
  | _ => false

theorem opensStatement_of_inExpression {kind : TokenKind} (h : kind.inExpression = true) :
    kind.opensStatement = false := by
  cases kind <;> first | rfl | cases h

theorem opensStatement_of_skippable {kind : TokenKind} (h : kind.skippable = true) :
    kind.opensStatement = false := by
  cases kind with
  | keyword word => cases word <;> first | rfl | cases h
  | _ => rfl

end TokenKind

namespace Tree

/-! ## Expressions -/

mutual

theorem Part.inExpression_yield :
    (p : Part) → ∀ t ∈ p.yield, t.kind.inExpression = true
  | .integer _ => by simp [Part.yield, TokenKind.inExpression, TokenKind.startsPart]
  | .string _ => by simp [Part.yield, TokenKind.inExpression, TokenKind.startsPart]
  | .name _ => by simp [Part.yield, TokenKind.inExpression, TokenKind.startsPart]
  | .sign _ _ => by simp [Part.yield, TokenKind.inExpression, TokenKind.startsPart]
  | .group _ inner _ => by
      simp only [Part.yield, List.forall_mem_cons, List.forall_mem_append]
      exact ⟨rfl, inner.inExpression_yield, rfl, by simp⟩
  | .call _ _ args _ => by
      simp only [Part.yield, List.forall_mem_cons, List.forall_mem_append]
      exact ⟨rfl, rfl, args.inExpression_yield, rfl, by simp⟩
  | .builtin _ _ _ args _ => by
      simp only [Part.yield, List.forall_mem_cons, List.forall_mem_append]
      exact ⟨rfl, rfl, args.inExpression_yield, rfl, by simp⟩

theorem Expr.inExpression_yield :
    (e : Expr) → ∀ t ∈ e.yield, t.kind.inExpression = true
  | .nil => by simp [Expr.yield]
  | .cons head tail => by
      simp only [Expr.yield, List.forall_mem_append]
      exact ⟨head.inExpression_yield, tail.inExpression_yield⟩

theorem Args.inExpression_yield {n : Nat} :
    (a : Args n) → ∀ t ∈ a.yield, t.kind.inExpression = true
  | .none => by simp [Args.yield]
  | .some first more => by
      simp only [Args.yield, List.forall_mem_append]
      exact ⟨first.inExpression_yield, more.inExpression_yield⟩

theorem More.inExpression_yield {n : Nat} :
    (m : More n) → ∀ t ∈ m.yield, t.kind.inExpression = true
  | .nil => by simp [More.yield]
  | .cons _ arg rest => by
      simp only [More.yield, List.forall_mem_cons, List.forall_mem_append]
      exact ⟨rfl, arg.inExpression_yield, rest.inExpression_yield⟩

end

/-! ## Opening words -/

mutual

/-- The opening words of a statement and of the statements inside it. The word
that continues a branch with a condition counts as one. -/
def Stmt.openings : Stmt → List Token
  | .declare word _ _ _ => [word.as (.keyword .varK)]
  | .print word _ => [word.as (.keyword .printK)]
  | .loop word _ body => word.as (.keyword .whileK) :: body.openings
  | .branch word _ body links other =>
    word.as (.keyword .ifK) :: (body.openings ++ links.openings ++ other.openings)
  | .function word _ _ _ _ body => word.as (.keyword .functionK) :: body.openings
  | .give word _ => [word.as (.keyword .returnK)]
  | .writeFile word _ _ _ _ _ => [word.as (.keyword .writeFileK)]
  | _ => []

/-- The opening words of the statements of a block. -/
def Block.openings : Block → List Token
  | .mk _ items _ => items.openings

/-- The opening words of the statements in a block. -/
def Items.openings : Items → List Token
  | .nil => []
  | .line _ rest => rest.openings
  | .stmt s rest => s.openings ++ rest.openings

/-- The opening words of `else if` links. -/
def Links.openings : Links → List Token
  | .nil => []
  | .cons _ _ word _ body rest => word.as (.keyword .ifK) :: (body.openings ++ rest.openings)

/-- The opening words of the last alternative. -/
def Other.openings : Other → List Token
  | .none => []
  | .some _ _ body => body.openings

end

/-- The opening words at the top level. -/
def Top.openings : Top → List Token
  | .stmt s => s.openings
  | _ => []

/-- The opening words of a program. -/
def openings (p : Program) : List Token :=
  p.flatMap Top.openings

/-- Whether a token is an opening word. -/
def opens (t : Token) : Bool :=
  t.kind.opensStatement

theorem filter_opens_of_inExpression {ts : List Token}
    (h : ∀ t ∈ ts, t.kind.inExpression = true) : ts.filter opens = [] := by
  refine List.filter_eq_nil_iff.2 fun t ht => ?_
  rw [opens, TokenKind.opensStatement_of_inExpression (h t ht)]
  exact Bool.false_ne_true

@[simp] theorem Expr.filter_opens (e : Expr) : e.yield.filter opens = [] :=
  filter_opens_of_inExpression e.inExpression_yield

@[simp] theorem Args.filter_opens {n : Nat} (a : Args n) : a.yield.filter opens = [] :=
  filter_opens_of_inExpression a.inExpression_yield

@[simp] theorem Test.filter_opens (t : Test) : t.yield.filter opens = [] := by
  simp [Test.yield, opens, TokenKind.opensStatement]

theorem Params.inExpression_yield (params : Params) :
    ∀ t ∈ params.yield, t.kind.inExpression = true := by
  cases params with
  | none => simp [Params.yield]
  | some first more =>
      intro t ht
      simp only [Params.yield, moreYield, List.mem_cons, List.mem_flatMap, List.not_mem_nil,
        or_false] at ht
      rcases ht with rfl | ⟨p, -, rfl | rfl⟩ <;> rfl

@[simp] theorem Params.filter_opens (params : Params) : params.yield.filter opens = [] :=
  filter_opens_of_inExpression params.inExpression_yield

theorem lineYield_kind {lines : List Mark} : ∀ t ∈ lineYield lines, t.kind = .newline := by
  intro t ht
  obtain ⟨m, -, rfl⟩ := List.mem_map.1 ht
  rfl

@[simp] theorem filter_opens_lineYield (lines : List Mark) :
    (lineYield lines).filter opens = [] := by
  refine List.filter_eq_nil_iff.2 fun t ht => ?_
  rw [opens, lineYield_kind t ht]
  exact Bool.false_ne_true

mutual

/-- The opening words among the tokens of a statement are those of the
statements it is made of. -/
theorem Stmt.filter_opens : (s : Stmt) → s.yield.filter opens = s.openings
  | .declare _ _ _ _ | .print _ _ | .give _ _ | .writeFile _ _ _ _ _ _ | .readFile _ _ _ _
  | .assign _ _ _ | .call _ _ _ _ | .idle _ => by
      simp [Stmt.yield, Stmt.openings, opens, TokenKind.opensStatement]
  | .loop _ _ body | .function _ _ _ _ _ body => by
      simp [Stmt.yield, Stmt.openings, opens, TokenKind.opensStatement, body.filter_opens]
  | .branch _ _ body links other => by
      simp [Stmt.yield, Stmt.openings, opens, TokenKind.opensStatement, body.filter_opens,
        links.filter_opens, other.filter_opens]
  | .skipped tok h => by
      simp [Stmt.yield, Stmt.openings, opens, TokenKind.opensStatement_of_skippable h]

theorem Block.filter_opens : (b : Block) → b.yield.filter opens = b.openings
  | .mk _ items _ => by
      simp [Block.yield, Block.openings, opens, TokenKind.opensStatement, items.filter_opens]

theorem Items.filter_opens : (items : Items) → items.yield.filter opens = items.openings
  | .nil => rfl
  | .line _ rest => by
      simp [Items.yield, Items.openings, opens, TokenKind.opensStatement, rest.filter_opens]
  | .stmt s rest => by
      simp [Items.yield, Items.openings, s.filter_opens, rest.filter_opens]

theorem Links.filter_opens : (links : Links) → links.yield.filter opens = links.openings
  | .nil => rfl
  | .cons _ _ _ _ body rest => by
      simp [Links.yield, Links.openings, opens, TokenKind.opensStatement, body.filter_opens,
        rest.filter_opens]

theorem Other.filter_opens : (other : Other) → other.yield.filter opens = other.openings
  | .none => rfl
  | .some _ _ body => by
      simp [Other.yield, Other.openings, opens, TokenKind.opensStatement, body.filter_opens]

end

/-- No token is of the kind. -/
def Without (kind : TokenKind) (ts : List Token) : Prop :=
  ∀ t ∈ ts, t.kind ≠ kind

section

variable {kind : TokenKind}

@[simp] theorem without_nil : Without kind [] := fun _ h => by cases h

@[simp] theorem without_cons (t : Token) (ts : List Token) :
    Without kind (t :: ts) ↔ t.kind ≠ kind ∧ Without kind ts :=
  List.forall_mem_cons

@[simp] theorem without_append (ts us : List Token) :
    Without kind (ts ++ us) ↔ Without kind ts ∧ Without kind us :=
  List.forall_mem_append

theorem without_of_inExpression {ts : List Token} (h : ∀ t ∈ ts, t.kind.inExpression = true)
    (hk : kind.inExpression = false) : Without kind ts := by
  intro t ht htk
  have := h t ht
  rw [htk, hk] at this
  cases this

variable {ts us before after : List Token} {t : Token}

theorem Without.ne_append (h : Without kind ts) (ht : t.kind = kind) :
    ts ≠ before ++ t :: after := by
  rintro rfl
  exact h t (by simp) ht

/-- A token of a list stands in its first part or in its second. -/
theorem cut_append (h : ts ++ us = before ++ t :: after) :
    (∃ m, ts = before ++ t :: m ∧ after = m ++ us) ∨
      ∃ m, before = ts ++ m ∧ us = m ++ t :: after := by
  rcases List.append_eq_append_iff.1 h with ⟨m, hb, hu⟩ | ⟨m, ht, ha⟩
  · exact .inr ⟨m, hb, hu⟩
  · cases m with
    | nil => exact .inr ⟨[], by simpa using ht.symm, by simpa using ha.symm⟩
    | cons u m =>
        injection ha with hu ha
        subst hu
        exact .inl ⟨m, ht, ha⟩

end

@[simp] theorem Expr.without_eof (e : Expr) : Without .eof e.yield :=
  without_of_inExpression e.inExpression_yield rfl

@[simp] theorem Expr.without_newline (e : Expr) : Without .newline e.yield :=
  without_of_inExpression e.inExpression_yield rfl

@[simp] theorem Args.without_eof {n : Nat} (a : Args n) : Without .eof a.yield :=
  without_of_inExpression a.inExpression_yield rfl

@[simp] theorem Args.without_newline {n : Nat} (a : Args n) : Without .newline a.yield :=
  without_of_inExpression a.inExpression_yield rfl

@[simp] theorem Params.without_eof (params : Params) : Without .eof params.yield :=
  without_of_inExpression params.inExpression_yield rfl

@[simp] theorem Test.without_eof (t : Test) : Without .eof t.yield := by
  simp [Test.yield]

@[simp] theorem without_eof_lineYield (lines : List Mark) : Without .eof (lineYield lines) := by
  intro t ht hk
  rw [lineYield_kind t ht] at hk
  cases hk

mutual

theorem Stmt.without_eof : (s : Stmt) → Without .eof s.yield
  | .declare _ _ _ _ | .print _ _ | .give _ _ | .writeFile _ _ _ _ _ _ | .readFile _ _ _ _
  | .assign _ _ _ | .call _ _ _ _ | .idle _ => by simp [Stmt.yield]
  | .loop _ _ body | .function _ _ _ _ _ body => by simp [Stmt.yield, body.without_eof]
  | .branch _ _ body links other => by
      simp [Stmt.yield, body.without_eof, links.without_eof, other.without_eof]
  | .skipped tok h => by
      have hk : tok.kind ≠ .eof := by intro hk; rw [hk] at h; cases h
      simp [Stmt.yield, hk]

theorem Block.without_eof : (b : Block) → Without .eof b.yield
  | .mk _ items _ => by simp [Block.yield, items.without_eof]

theorem Items.without_eof : (items : Items) → Without .eof items.yield
  | .nil => without_nil
  | .line _ rest => by simp [Items.yield, rest.without_eof]
  | .stmt s rest => by simp [Items.yield, s.without_eof, rest.without_eof]

theorem Links.without_eof : (links : Links) → Without .eof links.yield
  | .nil => without_nil
  | .cons _ _ _ _ body rest => by
      simp [Links.yield, body.without_eof, rest.without_eof]

theorem Other.without_eof : (other : Other) → Without .eof other.yield
  | .none => without_nil
  | .some _ _ body => by simp [Other.yield, body.without_eof]

end

theorem without_eof_yield (p : Program) : Without .eof (yield p) := by
  induction p with
  | nil => exact without_nil
  | cons t p ih =>
      rw [yield_cons, without_append]
      refine ⟨?_, ih⟩
      cases t with
      | line m => simp [Top.yield]
      | stray m => simp [Top.yield]
      | stmt s => exact s.without_eof

/-! ## The last token -/

/-- The last token is a line break. -/
def EndsInLine (ts : List Token) : Prop :=
  ∃ t, ts.getLast? = some t ∧ t.kind = .newline

theorem EndsInLine.of_append {ts us : List Token} (h : EndsInLine (ts ++ us)) (hne : us ≠ []) :
    EndsInLine us := by
  obtain ⟨t, ht, hk⟩ := h
  rw [List.getLast?_append, List.getLast?_eq_some_getLast hne, Option.some_or] at ht
  exact ⟨t, by rw [← ht, List.getLast?_eq_some_getLast hne], hk⟩

theorem Without.not_endsInLine {ts : List Token} (h : Without .newline ts) : ¬ EndsInLine ts := by
  rintro ⟨t, ht, hk⟩
  exact h t (List.mem_of_getLast? ht) hk

theorem Block.yield_ne_nil (b : Block) : b.yield ≠ [] := by
  cases b
  exact List.cons_ne_nil _ _

theorem Block.not_endsInLine (b : Block) : ¬ EndsInLine b.yield := by
  cases b with
  | mk opening items closing =>
      intro h
      rw [Block.yield, ← List.cons_append] at h
      obtain ⟨t, ht, hk⟩ := h.of_append (List.cons_ne_nil _ _)
      cases ht
      cases hk

theorem Links.not_endsInLine : (links : Links) → ¬ EndsInLine links.yield
  | .nil => fun ⟨_, ht, _⟩ => by cases ht
  | .cons lines other word test body rest => by
      intro h
      rw [Links.yield] at h
      have h := h.of_append (List.cons_ne_nil _ _)
      by_cases hne : rest.yield = []
      · rw [hne, List.append_nil, ← List.cons_append, ← List.cons_append] at h
        exact body.not_endsInLine (h.of_append body.yield_ne_nil)
      · rw [← List.cons_append, ← List.cons_append] at h
        exact rest.not_endsInLine (h.of_append hne)

theorem Other.not_endsInLine (other : Other) : ¬ EndsInLine other.yield := by
  cases other with
  | none => exact fun ⟨_, ht, _⟩ => by cases ht
  | some lines word body =>
      intro h
      rw [Other.yield, ← List.singleton_append, ← List.append_assoc] at h
      exact body.not_endsInLine (h.of_append body.yield_ne_nil)

/-- No statement takes the line break behind it. -/
theorem Stmt.not_endsInLine (s : Stmt) : ¬ EndsInLine s.yield := by
  cases s with
  | loop word test body =>
      intro h
      rw [Stmt.yield, ← List.cons_append] at h
      exact body.not_endsInLine (h.of_append body.yield_ne_nil)
  | branch word test body links other =>
      intro h
      rw [Stmt.yield, ← List.cons_append] at h
      by_cases hother : other.yield = []
      · rw [hother, List.append_nil, ← List.cons_append] at h
        by_cases hlinks : links.yield = []
        · rw [hlinks, List.append_nil, ← List.cons_append] at h
          exact body.not_endsInLine (h.of_append body.yield_ne_nil)
        · exact links.not_endsInLine (h.of_append hlinks)
      · exact other.not_endsInLine (h.of_append hother)
  | function word name opening params closing body =>
      intro h
      rw [Stmt.yield, ← List.singleton_append (l := body.yield), ← List.append_assoc,
        ← List.cons_append, ← List.cons_append, ← List.cons_append] at h
      exact body.not_endsInLine (h.of_append body.yield_ne_nil)
  | skipped tok h =>
      have hk : tok.kind ≠ .newline := by intro hk; rw [hk] at h; cases h
      exact Without.not_endsInLine (by simp [Stmt.yield, hk])
  | _ => exact Without.not_endsInLine (by simp [Stmt.yield])

/-! ## Remarks -/

/-- All remarks are about some of the tokens. -/
def Emission.About (e : Emission) (ts : List Token) : Prop :=
  ∀ m ∈ e.remarks, m.2 ∈ ts

namespace Emission.About

variable {e f : Emission} {ts us : List Token}

theorem of_nil (h : e.remarks = []) : e.About ts := by
  intro m hm
  rw [h] at hm
  cases hm

theorem mono (h : e.About ts) (hsub : ∀ t ∈ ts, t ∈ us) : e.About us :=
  fun m hm => hsub m.2 (h m hm)

theorem append (h : e.About ts) (h' : f.About ts) : (e ++ f).About ts := by
  intro m hm
  rcases List.mem_append.1 hm with hm | hm
  · exact h m hm
  · exact h' m hm

theorem enclosed (h : e.About ts) (indent : Nat) (head : String) :
    (Emission.enclosed indent head e).About ts :=
  ((of_nil rfl).append h).append (of_nil rfl)

end Emission.About

mutual

theorem Stmt.about (types : TypeTable) (indent : Nat) :
    (s : Stmt) → (s.emission types indent).About s.yield
  | .declare _ _ _ _ | .print _ _ | .writeFile _ _ _ _ _ _ | .readFile _ _ _ _
  | .assign _ _ _ | .call _ _ _ _ => .of_nil rfl
  | .give _ _ => by
      unfold Stmt.emission
      split
      · exact .of_nil rfl
      · exact .of_nil rfl
  | .loop _ test body => by
      refine ((body.about types _).mono fun t ht => ?_).enclosed _ _
      simp [Stmt.yield, ht]
  | .branch _ test body links other => by
      refine ((Emission.About.enclosed ((body.about types _).mono fun t ht => ?_) _ _).append
        ((links.about _ _).mono fun t ht => ?_)).append ((other.about _ _).mono fun t ht => ?_)
      · simp [Stmt.yield, ht]
      · simp [Stmt.yield, ht]
      · simp [Stmt.yield, ht]
  | .function _ _ _ _ _ body => fun m hm => by
      have hbody := body.about types 1 m hm
      simp [Stmt.yield, hbody]
  | .idle name => by simp [Emission.About, Stmt.emission, Emission.remark, Stmt.yield]
  | .skipped tok h => by
      unfold Stmt.emission
      split
      · simp [Emission.About, Emission.remark, Stmt.yield]
      · exact .of_nil rfl

theorem Block.about (types : TypeTable) (indent : Nat) :
    (b : Block) → (b.emission types indent).About b.yield
  | .mk _ items _ => (items.about types indent).mono fun t ht => by simp [Block.yield, ht]

theorem Items.about (types : TypeTable) (indent : Nat) :
    (items : Items) → (items.emission types indent).About items.yield
  | .nil => .of_nil rfl
  | .line _ rest => (rest.about types indent).mono fun t ht => by simp [Items.yield, ht]
  | .stmt s rest =>
      ((s.about types indent).mono fun t ht => by simp [Items.yield, ht]).append
        ((rest.about _ indent).mono fun t ht => by simp [Items.yield, ht])

theorem Links.about (types : TypeTable) (indent : Nat) :
    (links : Links) → (links.emission types indent).About links.yield
  | .nil => .of_nil rfl
  | .cons _ _ _ test body rest => by
      refine (Emission.About.enclosed ((body.about types _).mono fun t ht => ?_) _ _).append
        ((rest.about _ indent).mono fun t ht => ?_)
      · simp [Links.yield, ht]
      · simp [Links.yield, ht]

theorem Other.about (types : TypeTable) (indent : Nat) :
    (other : Other) → (other.emission types indent).About other.yield
  | .none => .of_nil rfl
  | .some _ _ body =>
      ((body.about types _).mono fun t ht => by simp [Other.yield, ht]).enclosed _ _

end

/-- What a program is remarked on for stands in it. -/
theorem about_yield (types : TypeTable) (p : Program) : (emission types p).About (yield p) := by
  induction p generalizing types with
  | nil => exact .of_nil rfl
  | cons t p ih =>
      have hhead : (t.emission types).About t.yield := by
        cases t with
        | line m => exact .of_nil rfl
        | stray m => simp [Emission.About, Top.emission, Emission.remark, Top.yield]
        | stmt s => exact s.about types 1
      rw [yield_cons]
      exact (hhead.mono fun t ht => List.mem_append_left _ ht).append
        ((ih _).mono fun t ht => List.mem_append_right _ ht)

end Tree

end StageZero
