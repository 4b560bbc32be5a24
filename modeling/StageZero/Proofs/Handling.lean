import StageZero.Proofs.Conduct

/-!
# How statements behave

The conduct of the readers carries over to the generator. Writing and declaring
touch neither the cursor nor the report, so a statement behaves as the tokens it
reads: it begins by taking one, and from there on fewer are ahead, which is what
its expressions and the statements in its blocks need to be called at all.

The steps that generate the statements inside a block are called only where the
block does not end. They are steady there: each of them takes a token.
-/

namespace StageZero

open StageZero.Tree

namespace Gen

section

variable {k : Nat} {deep : Prop} {s : State} {kind : TokenKind} {cause : Fault}

/-- Two steps of the generator end in the same way, and in an orderly one. -/
abbrev Alike {α : Type} (k : Nat) (deep : Prop) (s : State)
    (x y : EStateM.Result Failure State α) : Prop :=
  StageZero.Alike State.toReading k deep s.toReading x y

/-- Two steps that are alike wherever fewer than `bound` tokens are ahead. -/
abbrev Tame {α : Type} (bound : Nat) (deep : Prop) (m m' : Gen α) : Prop :=
  StageZero.Tame State.toReading bound deep m m'

/-! ## Single steps -/

theorem alike_lift {α : Type} {m m' : Read α}
    (h : Read.Alike k deep s.toReading (m s.toReading) (m' s.toReading)) :
    Alike k deep s (lift m s) (lift m' s) := by
  obtain ⟨heq, ho⟩ := h
  unfold lift
  rw [← heq]
  cases hm : m s.toReading with
  | ok a r =>
      rw [hm] at ho
      cases ho with
      | ok hr => exact ⟨rfl, .ok hr⟩
  | error e r =>
      rw [hm] at ho
      cases ho with
      | fault hr hd hc he => exact ⟨rfl, .fault hr hd hc he⟩

theorem alike_write (f : Output → Output) : Alike 0 deep s (write f s) (write f s) :=
  Orderly.alike (.ok (.refl _))

theorem alike_emit (code : String) : Alike 0 deep s (emit code s) (emit code s) :=
  alike_write _

theorem alike_declare (name : String) (kind : ValueKind) :
    Alike 0 deep s (declare name kind s) (declare name kind s) :=
  Orderly.alike (.ok (.refl _))

theorem alike_note (e : Event) :
    Alike 0 deep s ((Read.note e : Gen Unit) s) ((Read.note e : Gen Unit) s) :=
  alike_lift (Read.alike_note e)

theorem alike_advance (hs : s.cursor.Sealed) (hk : s.cursor.here.kind ≠ .eof) :
    Alike 1 deep s ((Read.advance : Gen Token) s) ((Read.advance : Gen Token) s) :=
  alike_lift (Read.alike_advance hs hk)

theorem alike_expect (hs : s.cursor.Sealed) (hk : kind ≠ .eof) (hd : cause ≠ .tooDeep) :
    Alike 1 deep s ((Read.expect kind cause : Gen Token) s)
      ((Read.expect kind cause : Gen Token) s) :=
  alike_lift (Read.alike_expect hs hk hd)

theorem alike_accept (hs : s.cursor.Sealed) (hk : kind ≠ .eof) :
    Alike 0 deep s ((Read.accept kind : Gen Bool) s) ((Read.accept kind : Gen Bool) s) :=
  alike_lift (Read.alike_accept hs hk)

theorem alike_elseFollows :
    Alike 0 deep s ((Read.elseFollows : Gen Bool) s) ((Read.elseFollows : Gen Bool) s) :=
  alike_lift Read.alike_elseFollows

theorem of_elseFollows_ok {s' : State} (hs : s.cursor.Sealed)
    (h : (Read.elseFollows : Gen Bool) s = .ok true s') :
    s'.cursor.here.kind = .keyword .elseK := by
  rcases elseFollows_cases hs with ⟨lines, c, -, hc, heq⟩ | ⟨-, heq⟩
  · rw [heq] at h
    cases h
    exact hc
  · rw [heq] at h
    cases h

theorem alike_mention (m : Remark) (hs : s.cursor.Sealed) (hk : s.cursor.here.kind ≠ .eof) :
    Alike 1 deep s ((Read.advance >>= fun tok => Read.remark m tok : Gen Unit) s)
      ((Read.advance >>= fun tok => Read.remark m tok : Gen Unit) s) :=
  alike_lift (Read.alike_mention m hs hk)

/-- Where a token is not accepted, nothing has happened. -/
theorem of_accept_false {s' : State} (hs : s.cursor.Sealed) (hne : kind ≠ .eof)
    (h : (Read.accept kind : Gen Bool) s = .ok false s') :
    s.cursor.here.kind ≠ kind ∧ s = s' := by
  by_cases hk : s.cursor.here.kind = kind
  · rw [accept_of_moves (hs.moves_next (by rw [hk]; exact hne)) hk] at h
    cases h
  · rw [accept_of_ne hk] at h
    cases h
    exact ⟨hk, rfl⟩

/-! ## Readers with the types declared so far -/

variable {depth depth' bound : Nat}

theorem alike_expression (hs : s.cursor.Sealed) (hd : Enough s.cursor.ahead.length depth depth') :
    Alike 0 (depth ≤ s.cursor.ahead.length) s (expression depth s) (expression depth' s) :=
  alike_lift (Read.alike_expression s.types hs hd)

/-- Two depths for expressions that do not matter where fewer than `bound` tokens
are ahead. -/
theorem tame_expression (types : TypeTable)
    (hd : ∀ left, left < bound → Enough left depth depth') (hdeep : depth < bound → deep) :
    Read.Tame bound deep (Read.expression types depth) (Read.expression types depth') := by
  intro r hw
  refine (Read.alike_expression types hw.isSealed (hd _ hw.left)).deepen fun hle => ?_
  exact hdeep (Nat.lt_of_le_of_lt hle hw.left)

theorem alike_builtin (hd : ∀ left, left < bound → Enough left depth depth')
    (hdeep : depth < bound → deep) (hw : s.toReading.Within (bound + 1)) {word : Builtin}
    (hk : s.cursor.here.kind = .builtin word) :
    Alike 1 deep s (builtin depth s) (builtin depth' s) :=
  alike_lift (Read.alike_builtin (tame_expression s.types hd hdeep) hw hk)

theorem alike_callArguments (hd : ∀ left, left < bound → Enough left depth depth')
    (hdeep : depth < bound → deep) (hw : s.toReading.Within bound) :
    Alike 0 deep s (callArguments depth s) (callArguments depth' s) :=
  alike_lift (Read.alike_callArguments (tame_expression s.types hd hdeep) hw)

theorem alike_reference (hd : ∀ left, left < bound → Enough left depth depth')
    (hdeep : depth < bound → deep) (hw : s.toReading.Within (bound + 1))
    (hk : s.cursor.here.kind ≠ .eof) :
    Alike 1 deep s (reference depth s) (reference depth' s) :=
  alike_lift (Read.alike_reference (tame_expression s.types hd hdeep) hw hk)

end

/-! ## Loops -/

/-- A loop whose step takes a token wherever the loop goes on. -/
theorem alike_repeatUntil {bound : Nat} {deep : Prop} {stops : List TokenKind}
    {step step' : Gen Unit}
    (hstep : ∀ s : State, s.toReading.Within bound → s.cursor.here.kind ∉ stops →
      Alike 1 deep s (step s) (step' s))
    {s : State} (hw : s.toReading.Within bound) {n n' : Nat}
    (hn : Enough s.cursor.ahead.length n n') :
    Alike 0 deep s (repeatUntil stops step n s) (repeatUntil stops step' n' s) := by
  induction n generalizing n' s with
  | zero =>
      rw [hn.zero]
      exact .pure _ s
  | succ n ih =>
      obtain ⟨j, rfl, hj⟩ := hn.succ
      unfold repeatUntil
      rw [bind_ok current_eq, bind_ok current_eq]
      by_cases hstop : s.cursor.here.kind ∈ stops
      · rw [if_pos hstop, if_pos hstop]
        exact .pure _ s
      · rw [if_neg hstop, if_neg hstop]
        refine (hstep s hw hstop).bind fun _ s₁ _ h₁ => ?_
        have hlt := h₁.ahead
        exact ih (h₁.within hw) (hj _ (by omega))

/-- Two generators of statements that are alike and take a token wherever fewer
than `bound` tokens are ahead and no block ends. -/
def Steady (bound : Nat) (deep : Prop) (inner inner' : Gen Unit) : Prop :=
  ∀ s : State, s.toReading.Within bound → s.cursor.here.kind ∉ [TokenKind.rbrace, .eof] →
    Alike 1 deep s (inner s) (inner' s)

section

variable {expr expr' : Gen Fragment} {inner inner' : Gen Unit} {bound : Nat} {deep : Prop}
  {s : State}

theorem alike_block (hi : Steady bound deep inner inner') (hw : s.toReading.Within bound)
    (place : String) : Alike 0 deep s (block inner place s) (block inner' place s) := by
  refine (alike_expect hw.isSealed (by simp) (by simp)).bind fun _ s₁ _ h₁ => ?_
  refine (alike_write _).bind fun _ s₂ _ h₂ => ?_
  have hw₂ := h₂.within (h₁.within hw)
  rw [bind_ok remaining_eq, bind_ok remaining_eq]
  refine (alike_repeatUntil hi hw₂ (.inl rfl)).bind fun _ s₃ _ h₃ => ?_
  refine (alike_write _).bind fun _ s₄ _ h₄ => ?_
  have hw₄ := h₄.within (h₃.within hw₂)
  exact (alike_expect hw₄.isSealed (by simp) (by simp)).bind fun _ s₅ _ _ => .pure _ s₅

theorem alike_condition (he : Tame bound deep expr expr')
    (hw : s.toReading.Within bound) (word : Token) :
    Alike 0 deep s (condition expr word s) (condition expr' word s) := by
  refine (alike_expect hw.isSealed (by simp) (by simp)).bind fun _ s₁ _ h₁ => ?_
  have hw₁ := h₁.within hw
  refine (he s₁ hw₁).bind fun _ s₂ _ h₂ => ?_
  refine (alike_expect (h₂.within hw₁).isSealed (by simp) (by simp)).bind fun _ s₃ _ _ => ?_
  exact .pure _ s₃

/-! ## Statements -/

theorem alike_varDeclaration (he : Tame bound deep expr expr')
    (hw : s.toReading.Within (bound + 1)) (hk : s.cursor.here.kind ≠ .eof) :
    Alike 1 deep s (varDeclaration expr s) (varDeclaration expr' s) := by
  refine (alike_advance hw.isSealed hk).bind_first fun _ s₁ _ h₁ => ?_
  have hw₁ := h₁.within_pred hw
  refine (alike_expect hw₁.isSealed (by simp) (by simp)).bind fun _ s₂ _ h₂ => ?_
  have hw₂ := h₂.within hw₁
  refine (alike_expect hw₂.isSealed (by simp) (by simp)).bind fun _ s₃ _ h₃ => ?_
  refine (he s₃ (h₃.within hw₂)).bind fun _ s₄ _ _ => ?_
  exact (alike_emit _).bind fun _ s₅ _ _ => alike_declare _ _

theorem alike_printStatement (he : Tame bound deep expr expr')
    (hw : s.toReading.Within (bound + 1)) (hk : s.cursor.here.kind ≠ .eof) :
    Alike 1 deep s (printStatement expr s) (printStatement expr' s) := by
  refine (alike_advance hw.isSealed hk).bind_first fun _ s₁ _ h₁ => ?_
  exact (he s₁ (h₁.within_pred hw)).bind fun _ s₂ _ _ => alike_emit _

theorem alike_guarded (he : Tame bound deep expr expr')
    (hi : Steady bound deep inner inner') (hw : s.toReading.Within (bound + 1))
    (hk : s.cursor.here.kind ≠ .eof) (head place : String) :
    Alike 1 deep s (guarded expr inner head place s) (guarded expr' inner' head place s) := by
  refine (alike_advance hw.isSealed hk).bind_first fun word s₁ _ h₁ => ?_
  have hw₁ := h₁.within_pred hw
  refine (alike_condition he hw₁ word).bind fun _ s₂ _ h₂ => ?_
  refine (alike_emit _).bind fun _ s₃ _ h₃ => ?_
  refine (alike_block hi (h₃.within (h₂.within hw₁)) place).bind fun _ s₄ _ _ => ?_
  exact alike_emit _

/-- Every alternative takes the word it begins with. -/
theorem alike_alternatives (he : Tame bound deep expr expr')
    (hi : Steady bound deep inner inner') (hw : s.toReading.Within bound) {n n' : Nat}
    (hn : Enough s.cursor.ahead.length n n') :
    Alike 0 deep s (alternatives expr inner n s) (alternatives expr' inner' n' s) := by
  induction n generalizing n' s with
  | zero =>
      rw [hn.zero]
      exact .pure _ s
  | succ n ih =>
      obtain ⟨j, rfl, hj⟩ := hn.succ
      unfold alternatives
      refine alike_elseFollows.bind fun follows s₁ hfollows h₁ => ?_
      cases follows with
      | false => exact .pure _ s₁
      | true =>
          have hw₁ := h₁.within hw
          have hk : s₁.cursor.here.kind ≠ .eof := by
            rw [of_elseFollows_ok hw.isSealed hfollows]
            simp
          refine (alike_advance hw₁.isSealed hk).bind fun _ s₂ _ h₂ => ?_
          have hw₂ := h₂.within hw₁
          rw [bind_ok (check_eq _), bind_ok (check_eq _)]
          by_cases hif : s₂.cursor.here.kind = .keyword .ifK
          · rw [decide_eq_true hif]
            refine (alike_guarded he hi (hw₂.mono (Nat.le_succ _)) (by rw [hif]; simp) _ _).bind
              fun _ s₃ _ h₃ => ?_
            -- the word that opened the alternative is a token less for the rest
            have hlt₁ := h₁.ahead
            have hlt₂ := h₂.ahead
            have hlt₃ := h₃.ahead
            exact ih (h₃.within hw₂) (hj _ (by omega))
          · rw [decide_eq_false hif]
            refine (alike_emit _).bind fun _ s₃ _ h₃ => ?_
            refine (alike_block hi (h₃.within hw₂) _).bind fun _ s₄ _ _ => ?_
            exact alike_emit _

theorem alike_ifStatement (he : Tame bound deep expr expr')
    (hi : Steady bound deep inner inner') (hw : s.toReading.Within (bound + 1))
    (hk : s.cursor.here.kind ≠ .eof) :
    Alike 1 deep s (ifStatement expr inner s) (ifStatement expr' inner' s) := by
  refine (alike_guarded he hi hw hk _ _).bind_first fun _ s₁ _ h₁ => ?_
  rw [bind_ok remaining_eq, bind_ok remaining_eq]
  exact alike_alternatives he hi (h₁.within_pred hw) (.inl rfl)

theorem alike_functionHead (hs : s.cursor.Sealed) (hk : s.cursor.here.kind ≠ .eof) :
    Alike 1 deep s (functionHead s) (functionHead s) := by
  have hw : s.toReading.Within (s.cursor.ahead.length + 1) := ⟨hs, Nat.lt_succ_self _⟩
  refine (alike_advance hs hk).bind_first fun _ s₁ _ h₁ => ?_
  have hw₁ := h₁.within hw
  refine (alike_expect hw₁.isSealed (by simp) (by simp)).bind fun _ s₂ _ h₂ => ?_
  have hw₂ := h₂.within hw₁
  refine (alike_expect hw₂.isSealed (by simp) (by simp)).bind fun _ s₃ _ h₃ => ?_
  have hw₃ := h₃.within hw₂
  rw [bind_ok remaining_eq]
  refine (alike_lift (Read.alike_parameters hw₃.isSealed true (.inl rfl))).bind
    fun _ s₄ _ h₄ => ?_
  refine (alike_expect (h₄.within hw₃).isSealed (by simp) (by simp)).bind fun _ s₅ _ _ => ?_
  refine (alike_write _).bind fun _ s₆ _ _ => ?_
  refine (alike_note _).bind fun _ s₇ _ _ => ?_
  rw [bind_ok (show (get : Gen State) s₇ = .ok s₇ s₇ from rfl)]
  exact (alike_write _).bind fun _ s₈ _ _ => .pure _ s₈

theorem alike_functionDeclaration (hi : Steady bound deep inner inner')
    (hw : s.toReading.Within (bound + 1)) (hk : s.cursor.here.kind ≠ .eof) :
    Alike 1 deep s (functionDeclaration inner s) (functionDeclaration inner' s) := by
  rw [functionDeclaration_eq, functionDeclaration_eq]
  refine (alike_functionHead hw.isSealed hk).bind_first fun _ s₁ _ h₁ => ?_
  refine (alike_block hi (h₁.within_pred hw) _).bind fun _ s₂ _ _ => ?_
  exact alike_write _

theorem alike_returnStatement (he : Tame bound deep expr expr')
    (hw : s.toReading.Within (bound + 1)) (hk : s.cursor.here.kind ≠ .eof) :
    Alike 1 deep s (returnStatement expr s) (returnStatement expr' s) := by
  refine (alike_advance hw.isSealed hk).bind_first fun _ s₁ _ h₁ => ?_
  refine (he s₁ (h₁.within_pred hw)).bind fun value s₂ _ _ => ?_
  split
  · exact alike_emit _
  · exact alike_emit _

theorem alike_writeFileStatement (he : Tame bound deep expr expr')
    (hw : s.toReading.Within (bound + 1)) (hk : s.cursor.here.kind ≠ .eof) :
    Alike 1 deep s (writeFileStatement expr s) (writeFileStatement expr' s) := by
  refine (alike_advance hw.isSealed hk).bind_first fun _ s₁ _ h₁ => ?_
  have hw₁ := h₁.within_pred hw
  refine (alike_expect hw₁.isSealed (by simp) (by simp)).bind fun _ s₂ _ h₂ => ?_
  have hw₂ := h₂.within hw₁
  refine (he s₂ hw₂).bind fun _ s₃ _ h₃ => ?_
  have hw₃ := h₃.within hw₂
  refine (alike_expect hw₃.isSealed (by simp) (by simp)).bind fun _ s₄ _ h₄ => ?_
  have hw₄ := h₄.within hw₃
  refine (he s₄ hw₄).bind fun _ s₅ _ h₅ => ?_
  refine (alike_expect (h₅.within hw₄).isSealed (by simp) (by simp)).bind fun _ s₆ _ _ => ?_
  exact alike_emit _

theorem nameStatement_of_ne {arguments : Gen String} (hequal : s.cursor.next.here.kind ≠ .equal)
    (hlparen : s.cursor.next.here.kind ≠ .lparen) :
    nameStatement expr arguments s =
      (Read.advance >>= fun tok => Read.remark .idleName tok : Gen Unit) s := by
  have hadvance : (Read.advance : Gen Token) s = .ok s.cursor.here (s.move s.cursor.next) := rfl
  unfold nameStatement
  rw [bind_ok hadvance, bind_ok hadvance, bind_ok (accept_of_ne hequal), if_neg (by simp),
    bind_ok (accept_of_ne hlparen), if_neg (by simp)]

theorem alike_nameStatement {arguments arguments' : Gen String}
    (he : Tame bound deep expr expr')
    (ha : Tame bound deep arguments arguments')
    (hw : s.toReading.Within (bound + 1)) (hk : s.cursor.here.kind ≠ .eof) :
    Alike 1 deep s (nameStatement expr arguments s) (nameStatement expr' arguments' s) := by
  by_cases hidle : s.cursor.next.here.kind ≠ .equal ∧ s.cursor.next.here.kind ≠ .lparen
  · -- nothing is read behind the name, so that the remark is on the last token read
    rw [nameStatement_of_ne hidle.1 hidle.2, nameStatement_of_ne hidle.1 hidle.2]
    exact alike_mention _ hw.isSealed hk
  · refine (alike_advance hw.isSealed hk).bind_first fun tok s₁ hadvance h₁ => ?_
    obtain ⟨rfl, rfl⟩ : s.cursor.here = tok ∧ s.move s.cursor.next = s₁ := by
      cases hadvance
      exact ⟨rfl, rfl⟩
    have hw₁ := h₁.within_pred hw
    refine (alike_accept hw₁.isSealed (by simp)).bind fun assigned s₂ hassigned h₂ => ?_
    have hw₂ := h₂.within hw₁
    cases assigned with
    | true => exact (he s₂ hw₂).bind fun _ s₃ _ _ => alike_emit _
    | false =>
        refine (alike_accept hw₂.isSealed (by simp)).bind fun called s₃ hcalled h₃ => ?_
        cases called with
        | true => exact (ha s₃ (h₃.within hw₂)).bind fun _ s₄ _ _ => alike_emit _
        | false =>
            obtain ⟨hequal, rfl⟩ := of_accept_false hw₁.isSealed (by simp) hassigned
            exact absurd ⟨hequal, (of_accept_false hw₂.isSealed (by simp) hcalled).1⟩ hidle

end

/-! ## The choice of a statement -/

section

variable {depth depth' bound : Nat} {deep : Prop} {inner inner' : Gen Unit} {s : State}

/-- A kind of token starts a statement at every depth or at none, and what it
starts takes that token. -/
theorem alike_statementFor? (hd : ∀ left, left < bound → Enough left depth depth')
    (hdeep : depth < bound → deep) (hi : Steady bound deep inner inner') (kind : TokenKind) :
    (statementFor? depth inner kind = none ∧ statementFor? depth' inner' kind = none) ∨
      ∃ handler handler', statementFor? depth inner kind = some handler ∧
        statementFor? depth' inner' kind = some handler' ∧
        ∀ s : State, s.toReading.Within (bound + 1) → s.cursor.here.kind = kind →
          Alike 1 deep s (handler s) (handler' s) := by
  have he : Tame bound deep (expression depth) (expression depth') :=
    fun s hw => alike_lift (tame_expression s.types hd hdeep s.toReading hw)
  have ha : Tame bound deep (callArguments depth) (callArguments depth') :=
    fun s hw => alike_callArguments hd hdeep hw
  have hne : ∀ {s : State}, s.cursor.here.kind = kind → kind ≠ .eof →
      s.cursor.here.kind ≠ .eof := fun hk hne => by rw [hk]; exact hne
  cases kind with
  | keyword word =>
      cases word with
      | varK =>
          refine .inr ⟨_, _, rfl, rfl, fun s hw hk => ?_⟩
          exact alike_varDeclaration he hw (hne hk (by simp))
      | printK =>
          refine .inr ⟨_, _, rfl, rfl, fun s hw hk => ?_⟩
          exact alike_printStatement he hw (hne hk (by simp))
      | whileK =>
          refine .inr ⟨_, _, rfl, rfl, fun s hw hk => ?_⟩
          exact alike_guarded he hi hw (hne hk (by simp)) _ _
      | ifK =>
          refine .inr ⟨_, _, rfl, rfl, fun s hw hk => ?_⟩
          exact alike_ifStatement he hi hw (hne hk (by simp))
      | functionK =>
          refine .inr ⟨_, _, rfl, rfl, fun s hw hk => ?_⟩
          exact alike_functionDeclaration hi hw (hne hk (by simp))
      | returnK =>
          refine .inr ⟨_, _, rfl, rfl, fun s hw hk => ?_⟩
          exact alike_returnStatement he hw (hne hk (by simp))
      | writeFileK =>
          refine .inr ⟨_, _, rfl, rfl, fun s hw hk => ?_⟩
          exact alike_writeFileStatement he hw (hne hk (by simp))
      | elseK => exact .inl ⟨rfl, rfl⟩
  | builtin word =>
      cases word with
      | readFile =>
          refine .inr ⟨_, _, rfl, rfl, fun s hw hk => ?_⟩
          exact (alike_builtin hd hdeep hw hk).bind_first fun _ s₁ _ _ => alike_emit _
      | _ => exact .inl ⟨rfl, rfl⟩
  | identifier =>
      refine .inr ⟨_, _, rfl, rfl, fun s hw hk => ?_⟩
      exact alike_nameStatement he ha hw (hne hk (by simp))
  | _ => exact .inl ⟨rfl, rfl⟩

theorem alike_statementOver_here (hd : ∀ left, left < bound → Enough left depth depth')
    (hdeep : depth < bound → deep) (hi : Steady bound deep inner inner')
    (hw : s.toReading.Within (bound + 1)) (hb : s.cursor.here.kind.betweenStatements = false) :
    Alike 1 deep s (statementOver depth inner s) (statementOver depth' inner' s) := by
  rw [statementOver_eq hb, statementOver_eq hb]
  rcases alike_statementFor? hd hdeep hi s.cursor.here.kind with
    ⟨hnone, hnone'⟩ | ⟨handler, handler', hsome, hsome', hh⟩
  · rw [hnone, hnone']
    refine alike_lift (Read.alike_skip hw.isSealed fun he => ?_)
    rw [he] at hb
    cases hb
  · rw [hsome, hsome']
    refine (alike_note _).bind fun _ s₁ hnote h₁ => hh s₁ (h₁.within hw) ?_
    obtain ⟨r, hr, rfl⟩ := of_lift_ok (m := Read.note (.statement s.cursor.here)) hnote
    obtain ⟨r', hr', hc, -⟩ := Read.note_cases (.statement s.cursor.here) s.toReading
    rw [hr'] at hr
    cases hr
    exact congrArg (·.here.kind) hc

/-- Line breaks count as well: behind them a block may end, but then one of them
was passed. -/
theorem alike_statementOver (hd : ∀ left, left < bound → Enough left depth depth')
    (hdeep : depth < bound → deep) (hi : Steady bound deep inner inner')
    (hw : s.toReading.Within (bound + 1))
    (hk : s.cursor.here.kind ∉ [TokenKind.rbrace, .eof]) :
    Alike 1 deep s (statementOver depth inner s) (statementOver depth' inner' s) := by
  by_cases hl : s.cursor.here.kind = .newline
  · have hne := hw.isSealed.skipNewlines_ne
    have hreach : s.toReading.Reaches 1 (s.move s.cursor.skipNewlines).toReading := by
      obtain ⟨lines, hm, -⟩ := s.cursor.skipNewlines_moves
      have hway : s.toReading.Reaches (lineYield lines).length
          (s.move s.cursor.skipNewlines).toReading := .of_moves hm (by simp) rfl
      refine hway.mono ?_
      cases lines with
      | nil => exact absurd hl (hm.eq_of_nil ▸ hne)
      | cons m lines => simp [lineYield]
    rw [statementOver_skip hne, statementOver_skip hne]
    refine StageZero.Alike.after (k := 0) hreach ?_
    by_cases hb : s.cursor.skipNewlines.here.kind.betweenStatements = false
    · exact (alike_statementOver_here hd hdeep hi (hreach.within hw) hb).mono (Nat.zero_le _)
    · have hstop : s.cursor.skipNewlines.here.kind = .rbrace ∨
          s.cursor.skipNewlines.here.kind = .eof := by
        cases hkind : s.cursor.skipNewlines.here.kind <;>
          simp_all [TokenKind.betweenStatements]
      rw [statementOver_stop hstop, statementOver_stop hstop]
      exact .pure _ _
  · refine alike_statementOver_here hd hdeep hi hw ?_
    cases hkind : s.cursor.here.kind <;> simp_all [TokenKind.betweenStatements]

end

/-! ## Whole runs -/

section

variable {depth depth' : Nat} {s : State}

/-- Depths that exceed the tokens ahead give the same statement. -/
theorem alike_statement (hs : s.cursor.Sealed) (hd : Enough s.cursor.ahead.length depth depth')
    (hk : s.cursor.here.kind ∉ [TokenKind.rbrace, .eof]) :
    Alike 1 (depth ≤ s.cursor.ahead.length) s (statement depth s) (statement depth' s) := by
  induction depth generalizing depth' s with
  | zero =>
      rw [hd.zero]
      exact alike_lift (Read.alike_fail _ fun _ => Nat.zero_le _)
  | succ depth ih =>
      obtain ⟨j, rfl, hj⟩ := hd.succ
      have hexpr : ∀ left, left < s.cursor.ahead.length → Enough left (depth + 1) (j + 1) :=
        fun left hl => hd.mono (Nat.le_of_lt hl)
      -- a block stands behind the word of its statement, where fewer tokens are ahead
      have hi : Steady s.cursor.ahead.length (depth + 1 ≤ s.cursor.ahead.length)
          (statement depth) (statement j) := by
        intro s₁ hw hk₁
        refine (ih hw.isSealed (hj _ hw.left) hk₁).deepen fun hle => ?_
        exact Nat.lt_of_le_of_lt hle hw.left
      exact alike_statementOver hexpr Nat.le_of_lt hi ⟨hs, Nat.lt_succ_self _⟩ hk

/-- Where a block ends a statement has nothing to take. -/
theorem alike_statement_anywhere (hs : s.cursor.Sealed)
    (hd : Enough s.cursor.ahead.length depth depth') :
    Alike 0 (depth ≤ s.cursor.ahead.length) s (statement depth s) (statement depth' s) := by
  by_cases hk : s.cursor.here.kind ∈ [TokenKind.rbrace, .eof]
  · cases depth with
    | zero =>
        rw [hd.zero]
        exact alike_lift (Read.alike_fail _ fun _ => Nat.zero_le _)
    | succ depth =>
        obtain ⟨j, rfl, -⟩ := hd.succ
        have hstop : s.cursor.here.kind = .rbrace ∨ s.cursor.here.kind = .eof := by
          simpa using hk
        rw [statement, statement, statementOver_stop hstop, statementOver_stop hstop]
        exact .pure _ s
  · exact (alike_statement hs hd hk).mono (Nat.zero_le _)

theorem alike_topLevel (hs : s.cursor.Sealed) (hd : Enough s.cursor.ahead.length depth depth')
    (hk : s.cursor.here.kind ≠ .eof) :
    Alike 1 (depth ≤ s.cursor.ahead.length) s (topLevel depth s) (topLevel depth' s) := by
  by_cases hb : s.cursor.here.kind = .rbrace
  · unfold topLevel
    rw [bind_ok (check_eq _), bind_ok (check_eq _), if_pos (decide_eq_true hb),
      if_pos (decide_eq_true hb)]
    exact alike_mention _ hs hk
  · rw [topLevel_of_ne hb, topLevel_of_ne hb]
    exact alike_statement hs hd (by simp [hb, hk])

/-- The main loop, however often it may go round and however deep it may go. -/
theorem alike_loop (hs : s.cursor.Sealed) (hd : Enough s.cursor.ahead.length depth depth')
    {n n' : Nat} (hn : Enough s.cursor.ahead.length n n') :
    Alike 0 (depth ≤ s.cursor.ahead.length) s (loop depth n s) (loop depth' n' s) := by
  have hw : s.toReading.Within (s.cursor.ahead.length + 1) := ⟨hs, Nat.lt_succ_self _⟩
  refine alike_repeatUntil (fun s₁ hw₁ hk => ?_) hw hn
  have hle := Nat.le_of_lt_succ hw₁.left
  refine (alike_topLevel hw₁.isSealed (hd.mono hle) (by simpa using hk)).deepen fun hdeep => ?_
  exact Nat.le_trans hdeep hle

theorem alike_run (hs : s.cursor.Sealed) (hd : Enough s.cursor.ahead.length depth depth') :
    Alike 0 (depth ≤ s.cursor.ahead.length) s (run depth s) (run depth' s) := by
  unfold run
  rw [bind_ok remaining_eq, bind_ok remaining_eq]
  exact alike_loop hs hd (.inl rfl)

end

end Gen

end StageZero
