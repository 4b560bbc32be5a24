import StageZero.Proofs.Parentheses
import StageZero.Proofs.Silence
import StageZero.Proofs.Steps
import StageZero.Proofs.Yields

/-!
# How far an expression goes

An expression has no end of its own: it goes on as long as a token starts another
part. So where it stops, nothing could have been read, and what stands behind it is
left to the statement around it. What it has taken is closed in itself. There is no
line break, no brace and no semicolon in it, at any depth, and as many parentheses
are closed as are opened.

Commas start no part. They are read between the arguments of a call and nowhere
else, which is said here of the tokens on both sides of a comma: there is a word with
a parenthesis right behind it, and up to the comma and from there to the closing
parenthesis everything is balanced. Inside an argument list this is not so yet,
because its parentheses are not part of it; there a comma may stand between balanced
tokens as well.
-/

namespace StageZero

namespace Tree

variable {ts us before after : List Token}

/-! ## Places in argument lists -/

/-- The place between these tokens is in the arguments of a call, and no deeper: a
word has opened a parenthesis before it, which is closed behind it, and the
parentheses in between are closed on the side on which they are opened. -/
inductive AmongArguments : List Token → List Token → Prop where
  | intro {front args more back : List Token} {word opening closing : Token}
      (hword : takesArguments word.kind = true) (hopening : opening.kind = .lparen)
      (hargs : Balanced args) (hmore : Balanced more) (hclosing : closing.kind = .rparen) :
      AmongArguments (front ++ word :: opening :: args) (more ++ closing :: back)

/-- More tokens on either side make no difference. -/
theorem AmongArguments.widen (h : AmongArguments before after) (front back : List Token) :
    AmongArguments (front ++ before) (after ++ back) := by
  cases h with
  | @intro front' args more back' word opening closing hword hopening hargs hmore hclosing =>
      have hbefore : front ++ (front' ++ word :: opening :: args) =
          (front ++ front') ++ word :: opening :: args := by simp
      have hafter : more ++ closing :: back' ++ back = more ++ closing :: (back' ++ back) := by simp
      rw [hbefore, hafter]
      exact .intro hword hopening hargs hmore hclosing

/-- The place between these tokens is in the arguments of a call, or in no parentheses
at all. -/
def BetweenArguments (before after : List Token) : Prop :=
  AmongArguments before after ∨ (Balanced before ∧ Balanced after)

theorem BetweenArguments.widen_left (h : BetweenArguments before after) (hts : Balanced ts) :
    BetweenArguments (ts ++ before) after := by
  rcases h with h | ⟨hbefore, hafter⟩
  · have hwide := h.widen ts []
    rw [List.append_nil] at hwide
    exact .inl hwide
  · exact .inr ⟨hts.append hbefore, hafter⟩

theorem BetweenArguments.widen_right (h : BetweenArguments before after) (hts : Balanced ts) :
    BetweenArguments before (after ++ ts) := by
  rcases h with h | ⟨hbefore, hafter⟩
  · exact .inl (h.widen [] ts)
  · exact .inr ⟨hbefore, hafter.append hts⟩

/-- Places between arguments are among them once the call is put around. -/
theorem BetweenArguments.call (h : BetweenArguments before after) {word opening closing : Token}
    (hword : takesArguments word.kind = true) (hopening : opening.kind = .lparen)
    (hclosing : closing.kind = .rparen) :
    AmongArguments ([word, opening] ++ before) (after ++ [closing]) := by
  rcases h with h | ⟨hbefore, hafter⟩
  · exact h.widen _ _
  · exact @AmongArguments.intro [] before after [] _ _ _ hword hopening hbefore hafter hclosing

/-! ## Where commas stand -/

/-- All commas among some tokens stand at such places. -/
def CommasAt (place : List Token → List Token → Prop) (ts : List Token) : Prop :=
  ∀ before comma after, ts = before ++ comma :: after → comma.kind = .comma → place before after

section

variable {place place' : List Token → List Token → Prop}

theorem CommasAt.of_without (h : Without .comma ts) : CommasAt place ts := by
  intro before comma after heq hk
  exact absurd heq (h.ne_append hk)

theorem CommasAt.append (hts : CommasAt place ts) (hus : CommasAt place us)
    (hleft : ∀ before after, place before after → place (ts ++ before) after)
    (hright : ∀ before after, place before after → place before (after ++ us)) :
    CommasAt place (ts ++ us) := by
  intro before comma after heq hk
  rcases cut_append heq with ⟨m, hbefore, rfl⟩ | ⟨m, rfl, hafter⟩
  · exact hright before m (hts before comma m hbefore hk)
  · exact hleft m after (hus m comma after hafter hk)

/-- Around tokens without a comma the commas between them stay where they are. -/
theorem CommasAt.around {front back : List Token} (h : CommasAt place ts)
    (hfront : Without .comma front) (hback : Without .comma back)
    (hplace : ∀ before after, place before after → place' (front ++ before) (after ++ back)) :
    CommasAt place' (front ++ (ts ++ back)) := by
  intro before comma after heq hk
  rcases cut_append heq with ⟨m, hbefore, -⟩ | ⟨m, rfl, hrest⟩
  · exact absurd hbefore (hfront.ne_append hk)
  · rcases cut_append hrest with ⟨m', hts, rfl⟩ | ⟨m', -, hafter⟩
    · exact hplace m m' (h m comma m' hts hk)
    · exact absurd hafter (hback.ne_append hk)

end

theorem CommasAt.among_append (hts : CommasAt AmongArguments ts)
    (hus : CommasAt AmongArguments us) : CommasAt AmongArguments (ts ++ us) := by
  refine hts.append hus ?_ ?_
  · intro before after h
    have hwide := h.widen ts []
    rwa [List.append_nil] at hwide
  · intro before after h
    exact h.widen [] us

theorem CommasAt.between_append (hts : CommasAt BetweenArguments ts)
    (hus : CommasAt BetweenArguments us) (hbts : Balanced ts) (hbus : Balanced us) :
    CommasAt BetweenArguments (ts ++ us) :=
  hts.append hus (fun _ _ h => h.widen_left hbts) (fun _ _ h => h.widen_right hbus)

theorem CommasAt.between (h : CommasAt AmongArguments ts) : CommasAt BetweenArguments ts :=
  fun before comma after heq hk => .inl (h before comma after heq hk)

/-- A comma alone is between two empty arguments. -/
theorem commasAt_comma (comma : Mark) : CommasAt BetweenArguments [comma.as .comma] := by
  intro before t after heq _
  rcases List.cons_eq_append_iff.1 heq with ⟨rfl, htail⟩ | ⟨m, -, hnil⟩
  · injection htail with _ hafter
    subst hafter
    exact .inr ⟨.nil, .nil⟩
  · simp at hnil

theorem CommasAt.group (h : CommasAt AmongArguments ts) (opening closing : Mark) :
    CommasAt AmongArguments (opening.as .lparen :: (ts ++ [closing.as .rparen])) := by
  have hfront : Without .comma [opening.as .lparen] := by simp
  refine h.around hfront (by simp) ?_
  intro before after hamong
  exact hamong.widen _ _

theorem CommasAt.call (h : CommasAt BetweenArguments ts) {word : Token}
    (hword : takesArguments word.kind = true) (opening closing : Mark) :
    CommasAt AmongArguments (word :: opening.as .lparen :: (ts ++ [closing.as .rparen])) := by
  have hcomma : word.kind ≠ .comma := by
    intro hk
    rw [hk] at hword
    cases hword
  have hfront : Without .comma [word, opening.as .lparen] := by simp [hcomma]
  refine h.around hfront (by simp) ?_
  intro before after hbetween
  exact hbetween.call hword rfl rfl

mutual

theorem Part.commasAt : (p : Part) → CommasAt AmongArguments p.yield
  | .integer _ | .string _ | .name _ | .sign _ _ => .of_without (by simp [Part.yield])
  | .group opening inner closing => inner.commasAt.group opening closing
  | .call _ opening args closing => args.commasAt.call rfl opening closing
  | .builtin _ _ opening args closing => args.commasAt.call rfl opening closing

/-- In an expression commas stand in the arguments of calls only. -/
theorem Expr.commasAt : (e : Expr) → CommasAt AmongArguments e.yield
  | .nil => .of_without without_nil
  | .cons head tail => head.commasAt.among_append tail.commasAt

theorem Args.commasAt {n : Nat} : (a : Args n) → CommasAt BetweenArguments a.yield
  | .none => .of_without without_nil
  | .some first more =>
      first.commasAt.between.between_append more.commasAt first.balanced more.balanced

theorem More.commasAt {n : Nat} : (m : More n) → CommasAt BetweenArguments m.yield
  | .nil => .of_without without_nil
  | .cons comma arg rest => by
      have hargs : CommasAt BetweenArguments (arg.yield ++ rest.yield) :=
        arg.commasAt.between.between_append rest.commasAt arg.balanced rest.balanced
      exact (commasAt_comma comma).between_append hargs (.singleton rfl)
        (arg.balanced.append rest.balanced)

end

end Tree

open StageZero.Tree

/-- Wherever an expression is read, it stays on its line: the tokens it takes are literals,
names, builtins, operators, parentheses and commas, at any depth. It closes the
parentheses it opens, and its commas stand in the arguments of calls and builtins, each
at the level of its own. It stops at a token that starts no part, so that nothing more
could be read. The tokens of a generator always end with the end of input. -/
theorem expression_stays_on_its_line {depth : Nat} {s s' : State} {f : Fragment}
    (hs : s.cursor.Sealed) (h : Gen.expression depth s = .ok f s') :
    ∃ ts, s.cursor.Moves ts s'.cursor ∧ (∀ t ∈ ts, t.kind.inExpression = true) ∧ Balanced ts ∧
      CommasAt AmongArguments ts ∧ s'.cursor.here.kind.startsPart = false ∧
      ∀ types inner, Read.part? types inner s'.toReading = .ok none s'.toReading := by
  have hquiet : Gen.expression depth s.quiet = .ok f s'.quiet := by
    rw [Gen.silent_expression depth s, h]
    rfl
  obtain ⟨e, c, hm, hends, -, -, hs'⟩ := Gen.of_expression_ok (s := s.quiet) rfl hs hquiet
  have hcursor : s'.cursor = c := congrArg (fun s : State => s.cursor) hs'
  have hstop : s'.cursor.here.kind.startsPart = false := by
    rw [hcursor]
    exact hends.2
  exact ⟨e.yield, hcursor ▸ hm, e.inExpression_yield, e.balanced, e.commasAt, hstop,
    fun types inner => part?_of_stop hstop⟩

/-- A state before an expression with argument lists in each other, and with a brace
behind it. -/
def nestedArguments : State :=
  .ofTokens (tokenize "streq(f(x, (1)), g()) + (y) \x7d") (.ofSource "") true

theorem expression_stays_on_its_line_nested :
    ∃ f s', Gen.expression 4 nestedArguments = .ok f s' ∧ s'.cursor.here.kind = .rbrace ∧
      ∃ ts, nestedArguments.cursor.Moves ts s'.cursor ∧
        (∀ t ∈ ts, t.kind.inExpression = true) ∧ Balanced ts ∧ CommasAt AmongArguments ts := by
  have hok : (match Gen.expression 4 nestedArguments with
      | .ok _ s' => decide (s'.cursor.here.kind = .rbrace)
      | .error _ _ => false) = true := by
    decide +kernel
  cases hrun : Gen.expression 4 nestedArguments with
  | error e s' =>
      rw [hrun] at hok
      cases hok
  | ok f s' =>
      rw [hrun] at hok
      obtain ⟨ts, hm, hkinds, hbalanced, hcommas, -⟩ :=
        expression_stays_on_its_line (Cursor.sealed_ofTokens _) hrun
      exact ⟨f, s', rfl, of_decide_eq_true hok, ts, hm, hkinds, hbalanced, hcommas⟩

end StageZero
