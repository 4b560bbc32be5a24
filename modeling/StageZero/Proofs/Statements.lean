import StageZero.Proofs.Blocks

/-!
# Statements are read as trees

Every form of a statement has its own generator, and each of them is shown to
do what its form of tree says, in both directions. The dispatch on the first
token then makes one generator of them, and with it goes a level of depth:
`Generates` at one level gives `Generates` at the next.

What this file ends with is `generates_statement`, for every depth.
-/

namespace StageZero

open StageZero.Tree

theorem Tree.Args.exists_single (a : Args 1) : ∃ e : Expr, a = .some e .nil := by
  cases a with
  | some first more =>
      cases more
      exact ⟨first, rfl⟩

theorem Tree.Links.length_le_yield : (links : Links) → links.length ≤ links.yield.length
  | .nil => Nat.le_refl _
  | .cons lines other word test body rest => by
      have := rest.length_le_yield
      simp only [Links.length, Links.yield, List.length_append, List.length_cons]
      omega

namespace Gen

/-! ## Forms without a block -/

section

variable {depth : Nat} {s s' : State} {c : Cursor}

theorem declare_eq (name : String) (kind : ValueKind) :
    declare name kind s = .ok () (s.after { declared := [(name, kind)] } s.cursor) := by
  have ho : s.output.extend { declared := [(name, kind)] } = s.output := s.output.extend_empty
  have hr : s.report.remarkAll [] = s.report := s.report.remarkAll_nil
  unfold State.after
  rw [ho, hr]
  rfl

theorem of_varDeclaration_ok (hq : s.debug = false) (hs : s.cursor.Sealed)
    (hk : s.cursor.here.kind = .keyword .varK)
    (h : varDeclaration (expression depth) s = .ok () s') : Written depth s s' := by
  obtain ⟨_, s₁, h₁, h⟩ := of_bind_ok h
  obtain ⟨word, c₁, -, hm₁, rfl⟩ := of_advance_ok hs hk (by simp) h₁
  have hs₁ := hm₁.isSealed hs
  obtain ⟨_, s₂, h₂, h⟩ := of_bind_ok h
  obtain ⟨name, c₂, rfl, hm₂, rfl⟩ := of_expect_ok (s := s.move c₁) hq hs₁ (by decide) h₂
  have hs₂ := hm₂.isSealed hs₁
  obtain ⟨_, s₃, h₃, h⟩ := of_bind_ok h
  obtain ⟨equal, c₃, -, hm₃, rfl⟩ := of_expect_ok (s := s.move c₂) hq hs₂ (by decide) h₃
  obtain ⟨_, s₄, h₄, h⟩ := of_bind_ok h
  obtain ⟨e, c₄, hm₄, hends, hn, rfl, rfl⟩ :=
    of_expression_ok (s := s.move c₃) hq (hm₃.isSealed hs₂) h₄
  replace h := (bind_ok (emit_eq _)).symm.trans h
  rw [declare_eq, State.after_after] at h
  cases h
  exact ⟨.declare word name equal e, c₄, ⟨hm₁.trans (hm₂.trans (hm₃.trans hm₄)), hends, hn⟩, rfl⟩

theorem varDeclaration_of_moves {word name equal : Mark} {value : Expr} (hq : s.debug = false)
    (hat : StmtAt depth s.cursor (.declare word name equal value) c) :
    varDeclaration (expression depth) s =
      .ok () (s.after ((Stmt.declare word name equal value).emission s.types s.output.indent) c) := by
  obtain ⟨c₁, hm₁, hm⟩ := hat.moves.head_split
  obtain ⟨c₂, hm₂, hm⟩ := hm.head_split
  obtain ⟨c₃, hm₃, hm₄⟩ := hm.head_split
  refine (bind_ok (advance_of_moves hm₁)).trans ?_
  refine (bind_ok (expect_of_moves (s := s.move c₁) hq hm₂ rfl)).trans ?_
  refine (bind_ok (expect_of_moves (s := s.move c₂) hq hm₃ rfl)).trans ?_
  refine (bind_ok (expression_of_moves (s := s.move c₃) hq hm₄ hat.fits hat.nesting)).trans ?_
  refine (bind_ok (emit_eq _)).trans ?_
  rw [declare_eq, State.after_after]
  rfl

theorem of_printStatement_ok (hq : s.debug = false) (hs : s.cursor.Sealed)
    (hk : s.cursor.here.kind = .keyword .printK)
    (h : printStatement (expression depth) s = .ok () s') : Written depth s s' := by
  obtain ⟨_, s₁, h₁, h⟩ := of_bind_ok h
  obtain ⟨word, c₁, -, hm₁, rfl⟩ := of_advance_ok hs hk (by simp) h₁
  obtain ⟨_, s₂, h₂, h⟩ := of_bind_ok h
  obtain ⟨e, c₂, hm₂, hends, hn, rfl, rfl⟩ :=
    of_expression_ok (s := s.move c₁) hq (hm₁.isSealed hs) h₂
  rw [emit_eq] at h
  cases h
  exact ⟨.print word e, c₂, ⟨hm₁.trans hm₂, hends, hn⟩, rfl⟩

theorem printStatement_of_moves {word : Mark} {value : Expr} (hq : s.debug = false)
    (hat : StmtAt depth s.cursor (.print word value) c) :
    printStatement (expression depth) s =
      .ok () (s.after ((Stmt.print word value).emission s.types s.output.indent) c) := by
  obtain ⟨c₁, hm₁, hm₂⟩ := hat.moves.head_split
  refine (bind_ok (advance_of_moves hm₁)).trans ?_
  refine (bind_ok (expression_of_moves (s := s.move c₁) hq hm₂ hat.fits hat.nesting)).trans ?_
  rw [emit_eq]
  rfl

theorem of_returnStatement_ok (hq : s.debug = false) (hs : s.cursor.Sealed)
    (hk : s.cursor.here.kind = .keyword .returnK)
    (h : returnStatement (expression depth) s = .ok () s') : Written depth s s' := by
  obtain ⟨_, s₁, h₁, h⟩ := of_bind_ok h
  obtain ⟨word, c₁, -, hm₁, rfl⟩ := of_advance_ok hs hk (by simp) h₁
  obtain ⟨_, s₂, h₂, h⟩ := of_bind_ok h
  obtain ⟨e, c₂, hm₂, hends, hn, rfl, rfl⟩ :=
    of_expression_ok (s := s.move c₁) hq (hm₁.isSealed hs) h₂
  refine ⟨.give word e, c₂, ⟨hm₁.trans hm₂, hends, hn⟩, ?_⟩
  unfold Stmt.emission
  by_cases hcode : e.code s.types = ""
  · rw [if_pos (by exact hcode), emit_eq] at h
    cases h
    rw [if_pos hcode]
    rfl
  · rw [if_neg (by exact hcode), emit_eq] at h
    cases h
    rw [if_neg hcode]
    rfl

theorem returnStatement_of_moves {word : Mark} {value : Expr} (hq : s.debug = false)
    (hat : StmtAt depth s.cursor (.give word value) c) :
    returnStatement (expression depth) s =
      .ok () (s.after ((Stmt.give word value).emission s.types s.output.indent) c) := by
  obtain ⟨c₁, hm₁, hm₂⟩ := hat.moves.head_split
  refine (bind_ok (advance_of_moves hm₁)).trans ?_
  refine (bind_ok (expression_of_moves (s := s.move c₁) hq hm₂ hat.fits hat.nesting)).trans ?_
  unfold Stmt.emission
  by_cases hcode : value.code s.types = ""
  · rw [if_pos (by exact hcode), if_pos hcode, emit_eq]
    rfl
  · rw [if_neg (by exact hcode), if_neg hcode, emit_eq]
    rfl

theorem of_writeFileStatement_ok (hq : s.debug = false) (hs : s.cursor.Sealed)
    (hk : s.cursor.here.kind = .keyword .writeFileK)
    (h : writeFileStatement (expression depth) s = .ok () s') : Written depth s s' := by
  obtain ⟨_, s₁, h₁, h⟩ := of_bind_ok h
  obtain ⟨word, c₁, -, hm₁, rfl⟩ := of_advance_ok hs hk (by simp) h₁
  have hs₁ := hm₁.isSealed hs
  obtain ⟨_, s₂, h₂, h⟩ := of_bind_ok h
  obtain ⟨opening, c₂, -, hm₂, rfl⟩ := of_expect_ok (s := s.move c₁) hq hs₁ (by decide) h₂
  have hs₂ := hm₂.isSealed hs₁
  obtain ⟨_, s₃, h₃, h⟩ := of_bind_ok h
  obtain ⟨name, c₃, hm₃, hname, hn, rfl, rfl⟩ := of_expression_ok (s := s.move c₂) hq hs₂ h₃
  have hs₃ := hm₃.isSealed hs₂
  obtain ⟨_, s₄, h₄, h⟩ := of_bind_ok h
  obtain ⟨comma, c₄, -, hm₄, rfl⟩ := of_expect_ok (s := s.move c₃) hq hs₃ (by decide) h₄
  have hs₄ := hm₄.isSealed hs₃
  obtain ⟨_, s₅, h₅, h⟩ := of_bind_ok h
  obtain ⟨content, c₅, hm₅, hcontent, hn', rfl, rfl⟩ :=
    of_expression_ok (s := s.move c₄) hq hs₄ h₅
  obtain ⟨_, s₆, h₆, h⟩ := of_bind_ok h
  obtain ⟨closing, c₆, -, hm₆, rfl⟩ :=
    of_expect_ok (s := s.move c₅) hq (hm₅.isSealed hs₄) (by decide) h₆
  rw [emit_eq] at h
  cases h
  refine ⟨.writeFile word opening name comma content closing, c₆, ⟨?_, ⟨hname.1, hcontent.1⟩,
    Nat.max_le.2 ⟨hn, hn'⟩⟩, rfl⟩
  exact hm₁.trans (hm₂.trans (hm₃.trans (hm₄.trans (hm₅.trans hm₆))))

theorem writeFileStatement_of_moves {word opening comma closing : Mark} {name content : Expr}
    (hq : s.debug = false)
    (hat : StmtAt depth s.cursor (.writeFile word opening name comma content closing) c) :
    writeFileStatement (expression depth) s =
      .ok () (s.after ((Stmt.writeFile word opening name comma content closing).emission s.types
        s.output.indent) c) := by
  obtain ⟨c₁, hm₁, hm⟩ := hat.moves.head_split
  obtain ⟨c₂, hm₂, hm⟩ := hm.head_split
  obtain ⟨c₃, hm₃, hm⟩ := hm.split
  obtain ⟨c₄, hm₄, hm⟩ := hm.head_split
  obtain ⟨c₅, hm₅, hm₆⟩ := hm.split
  have hnest := Nat.max_le.1 hat.nesting
  have hname : name.Ends c₃.rest := ⟨hat.fits.1, by rw [nextKind_rest, hm₄.here_eq]; rfl⟩
  have hcontent : content.Ends c₅.rest := ⟨hat.fits.2, by rw [nextKind_rest, hm₆.here_eq]; rfl⟩
  refine (bind_ok (advance_of_moves hm₁)).trans ?_
  refine (bind_ok (expect_of_moves (s := s.move c₁) hq hm₂ rfl)).trans ?_
  refine (bind_ok (expression_of_moves (s := s.move c₂) hq hm₃ hname hnest.1)).trans ?_
  refine (bind_ok (expect_of_moves (s := s.move c₃) hq hm₄ rfl)).trans ?_
  refine (bind_ok (expression_of_moves (s := s.move c₄) hq hm₅ hcontent hnest.2)).trans ?_
  refine (bind_ok (expect_of_moves (s := s.move c₅) hq hm₆ rfl)).trans ?_
  rw [emit_eq]
  rfl

theorem of_readFileStatement_ok (hq : s.debug = false) (hs : s.cursor.Sealed)
    (hk : s.cursor.here.kind = .builtin .readFile)
    (h : readFileStatement (builtin depth) s = .ok () s') : Written depth s s' := by
  obtain ⟨_, s₁, h₁, h⟩ := of_bind_ok h
  obtain ⟨r, hr, rfl⟩ := of_lift_ok (m := Read.builtin (Read.expression s.types depth)) h₁
  obtain ⟨word, opening, a, closing, c, hm, hp, hn, rfl, rfl⟩ :=
    of_builtin_ok (reads_expression s.types depth) hq hs hk hr
  obtain ⟨name, rfl⟩ := Args.exists_single a
  rw [emit_eq] at h
  cases h
  refine ⟨.readFile word opening name closing, c, ⟨?_, hp.1, (Nat.max_le.1 hn).1⟩, rfl⟩
  simpa [Part.yield, Args.yield, More.yield, Stmt.yield] using hm

theorem readFileStatement_of_moves {word opening closing : Mark} {name : Expr}
    (hq : s.debug = false) (hat : StmtAt depth s.cursor (.readFile word opening name closing) c) :
    readFileStatement (builtin depth) s =
      .ok () (s.after ((Stmt.readFile word opening name closing).emission s.types
        s.output.indent) c) := by
  let a : Args Builtin.readFile.routine.arity := .some name .nil
  have hm : s.cursor.Moves (Part.builtin .readFile word opening a closing).yield c := by
    simpa [a, Part.yield, Args.yield, More.yield, Stmt.yield] using hat.moves
  have hread := builtin_of_moves (reads_expression s.types depth) (r := s.toReading) hq hm
    ⟨hat.fits, trivial⟩ (Nat.max_le.2 ⟨hat.nesting, Nat.zero_le _⟩)
  refine (bind_ok (m := builtin depth) (lift_move hread)).trans ?_
  rw [emit_eq]
  rfl

/-- A name starts an assignment or a call, or it stands alone. -/
theorem of_nameStatement_ok (hq : s.debug = false) (hs : s.cursor.Sealed)
    (hk : s.cursor.here.kind = .identifier)
    (h : nameStatement (expression (depth + 1)) (callArguments (depth + 1)) s = .ok () s') :
    Written (depth + 1) s s' := by
  obtain ⟨_, s₁, h₁, h⟩ := of_bind_ok h
  obtain ⟨name, c₁, rfl, hm₁, rfl⟩ := of_advance_ok hs hk (by simp) h₁
  have hs₁ := hm₁.isSealed hs
  rcases accept_cases .equal (s := s.move c₁) hs₁ (by simp) with
    ⟨equal, c₂, hm₂, hequal⟩ | ⟨hne, hequal⟩
  · replace h := (bind_ok hequal).symm.trans h
    obtain ⟨_, s₃, h₃, h⟩ := of_bind_ok h
    obtain ⟨e, c₃, hm₃, hends, hn, rfl, rfl⟩ :=
      of_expression_ok (s := s.move c₂) hq (hm₂.isSealed hs₁) h₃
    rw [emit_eq] at h
    cases h
    exact ⟨.assign name equal e, c₃, ⟨hm₁.trans (hm₂.trans hm₃), hends, hn⟩, rfl⟩
  replace h := (bind_ok hequal).symm.trans h
  rcases accept_cases .lparen (s := s.move c₁) hs₁ (by simp) with
    ⟨opening, c₂, hm₂, hparen⟩ | ⟨hne', hparen⟩
  · replace h := (bind_ok hparen).symm.trans h
    obtain ⟨_, s₃, h₃, h⟩ := of_bind_ok h
    obtain ⟨r, hr, rfl⟩ :=
      of_lift_ok (m := Read.callArguments (Read.expression s.types (depth + 1))) h₃
    obtain ⟨n, a, closing, c₃, hm₃, hp, hn, rfl, rfl⟩ :=
      of_callArguments_ok (reads_expression s.types (depth + 1)) (r := (s.move c₂).toReading) hq
        (hm₂.isSealed hs₁) hr
    rw [emit_eq] at h
    cases h
    exact ⟨.call name opening a closing, c₃,
      ⟨hm₁.trans (hm₂.trans hm₃), hp, Nat.max_le.2 ⟨Nat.succ_le_succ (Nat.zero_le _), hn⟩⟩, rfl⟩
  · replace h := (bind_ok hparen).symm.trans h
    rw [if_neg (by simp), remark_eq] at h
    cases h
    exact ⟨.idle name, c₁, ⟨hm₁, ⟨hne, hne'⟩, Nat.succ_le_succ (Nat.zero_le _)⟩, rfl⟩

theorem nameStatement_assign {name equal : Mark} {value : Expr} (hq : s.debug = false)
    (hat : StmtAt depth s.cursor (.assign name equal value) c) :
    nameStatement (expression depth) (callArguments depth) s =
      .ok () (s.after ((Stmt.assign name equal value).emission s.types s.output.indent) c) := by
  obtain ⟨c₁, hm₁, hm⟩ := hat.moves.head_split
  obtain ⟨c₂, hm₂, hm₃⟩ := hm.head_split
  refine (bind_ok (advance_of_moves hm₁)).trans ?_
  refine (bind_ok (accept_of_moves (s := s.move c₁) hm₂ rfl)).trans ?_
  refine (bind_ok (expression_of_moves (s := s.move c₂) hq hm₃ hat.fits hat.nesting)).trans ?_
  rw [emit_eq]
  rfl

theorem nameStatement_call {name opening closing : Mark} {n : Nat} {a : Args n}
    (hq : s.debug = false) (hat : StmtAt depth s.cursor (.call name opening a closing) c) :
    nameStatement (expression depth) (callArguments depth) s =
      .ok () (s.after ((Stmt.call name opening a closing).emission s.types s.output.indent) c) := by
  obtain ⟨c₁, hm₁, hm⟩ := hat.moves.head_split
  obtain ⟨c₂, hm₂, hm₃⟩ := hm.head_split
  have hargs := callArguments_of_moves (reads_expression s.types depth)
    (r := (s.move c₂).toReading) hq hm₃ hat.fits (Nat.max_le.1 hat.nesting).2
  refine (bind_ok (advance_of_moves hm₁)).trans ?_
  refine (bind_ok (accept_of_ne (s := s.move c₁) (by
    rw [State.cursor_move, hm₂.here_eq]; simp))).trans ?_
  rw [if_neg (by simp)]
  refine (bind_ok (accept_of_moves (s := s.move c₁) hm₂ rfl)).trans ?_
  refine (bind_ok (m := callArguments depth) (lift_move (s := s.move c₂) hargs)).trans ?_
  rw [emit_eq]
  rfl

theorem nameStatement_idle {name : Mark} (hat : StmtAt depth s.cursor (.idle name) c) :
    nameStatement (expression depth) (callArguments depth) s =
      .ok () (s.after ((Stmt.idle name).emission s.types s.output.indent) c) := by
  refine (bind_ok (advance_of_moves hat.moves)).trans ?_
  refine (bind_ok (accept_of_ne (s := s.move c) hat.fits.1)).trans ?_
  rw [if_neg (by simp)]
  refine (bind_ok (accept_of_ne (s := s.move c) hat.fits.2)).trans ?_
  rw [if_neg (by simp), remark_eq]
  rfl

/-- One token is passed over, with a warning if it is an illegal character. -/
theorem skip_of_moves {tok : Token} (hq : s.debug = false) (hm : s.cursor.Moves [tok] c)
    (hk : tok.kind.skippable = true) :
    (Read.skip : Gen Unit) s =
      .ok () (s.after ((Stmt.skipped tok hk).emission s.types s.output.indent) c) := by
  show lift Read.skip s = _
  unfold Stmt.emission
  by_cases hu : tok.kind = .unknown
  · have hskip : Read.skip s.toReading =
        .ok () (s.after (.remark .illegalCharacter tok) c).toReading := by
      refine (bind_ok (Read.advance_of_moves hm)).trans ?_
      rw [if_pos hu]
      refine (bind_ok (show Read.remark .illegalCharacter tok _ = .ok () _ from rfl)).trans ?_
      refine (Read.note_quiet (by exact hq) _).trans ?_
      rw [← s.after_move _ s.cursor c, s.after_remark]
      rfl
    rw [if_pos hu]
    unfold lift
    rw [hskip]
    exact congrArg (EStateM.Result.ok ()) (congrArg (State.mk _ _) (s.output.extend_remark _ _).symm)
  · rw [if_neg hu, s.after_empty]
    refine lift_move (m := Read.skip) ((bind_ok (Read.advance_of_moves hm)).trans ?_)
    rw [if_neg hu]
    exact (bind_ok (show (pure () : Read Unit) _ = .ok () _ from rfl)).trans
      (Read.note_quiet (by exact hq) _)

end

/-! ## Forms with a block -/

section

variable {depth : Nat} {inner : Gen Unit} {s s' : State} {c c₁ : Cursor}

theorem of_whileStatement_ok (hg : Generates depth inner) (hq : s.debug = false)
    (hs : s.cursor.Sealed) (hk : s.cursor.here.kind = .keyword .whileK)
    (h : whileStatement (expression (depth + 1)) inner s = .ok () s') :
    Written (depth + 1) s s' := by
  obtain ⟨word, test, body, c₁, c, hm, hat, rfl⟩ := of_guarded_ok hg hq hs hk h
  exact ⟨.loop word test body, c, ⟨hm.trans hat.moves, ⟨hat.proper, hat.fits⟩,
    Nat.max_le.2 ⟨hat.deep, Nat.succ_le_succ hat.nesting⟩⟩, rfl⟩

theorem whileStatement_of_moves (hg : Generates depth inner) {word : Mark} {test : Test}
    {body : Block} (hq : s.debug = false)
    (hat : StmtAt (depth + 1) s.cursor (.loop word test body) c) :
    whileStatement (expression (depth + 1)) inner s =
      .ok () (s.after ((Stmt.loop word test body).emission s.types s.output.indent) c) := by
  obtain ⟨c₁, hm₁, hm₂⟩ := hat.moves.head_split
  have hnest := Nat.max_le.1 hat.nesting
  exact guarded_of_moves hg hq hm₁
    ⟨hm₂, hat.fits.1, hnest.1, hat.fits.2, Nat.le_of_succ_le_succ hnest.2⟩

/-- What a branch writes, with its alternatives taken together. -/
theorem branch_emission (types : TypeTable) (indent : Nat) (word : Mark) (test : Test)
    (body : Block) (links : Links) (other : Other) :
    let first := Emission.enclosed indent (test.head types "if") (body.emission types (indent + 1))
    (Stmt.branch word test body links other).emission types indent =
      first ++ alternativesEmission (types.declareAll first.declared) indent links other :=
  Emission.append_assoc _ _ _

/-- What a branch writes, with its last alternative apart. -/
theorem branch_other (types : TypeTable) (indent : Nat) (word : Mark) (test : Test)
    (body : Block) (links : Links) (other : Other) :
    let main := (Stmt.branch word test body links .none).emission types indent
    (Stmt.branch word test body links other).emission types indent =
      main ++ alternativesEmission (types.declareAll main.declared) indent .nil other := by
  simp only [Stmt.emission, alternativesEmission, Links.emission, Other.emission,
    Emission.append_empty, Emission.empty_append, Emission.declared_append,
    TypeTable.declareAll_append]
  rfl

theorem of_ifStatement_ok (hg : Generates depth inner) (hq : s.debug = false)
    (hs : s.cursor.Sealed) (hk : s.cursor.here.kind = .keyword .ifK)
    (h : ifStatement (expression (depth + 1)) inner s = .ok () s') :
    Written (depth + 1) s s' := by
  obtain ⟨_, s₁, h₁, h⟩ := of_bind_ok h
  obtain ⟨word, test, body, c₁, c₂, hm, hat, rfl⟩ := of_guarded_ok hg hq hs hk h₁
  replace h := (bind_ok remaining_eq).symm.trans h
  obtain ⟨links, other, c₃, halt, rfl⟩ :=
    of_alternatives_ok hg (s := s.after _ c₂) hq (hat.moves.isSealed (hm.isSealed hs))
      (Nat.lt_succ_self _) h
  refine ⟨.branch word test body links other, c₃, ⟨?_, ?_, ?_⟩, ?_⟩
  · simpa [Stmt.yield, List.append_assoc] using hm.trans (hat.moves.trans halt.moves)
  · exact ⟨hat.proper, hat.fits, halt.links_fits, halt.other_fits⟩
  · exact Nat.max_le.2 ⟨Nat.max_le.2 ⟨hat.deep, Nat.succ_le_succ hat.nesting⟩,
      Nat.max_le.2 ⟨halt.links_nesting, halt.other_nesting⟩⟩
  · rw [State.after_after, branch_emission, State.indent_after]
    rfl

/-- A branch is taken as far as its last link, whatever follows. -/
theorem ifStatement_of_links (hg : Generates depth inner) {word : Mark} {test : Test}
    {body : Block} {links : Links} {other : Other} (hq : s.debug = false)
    (hm : s.cursor.Moves (Stmt.branch word test body links .none).yield c)
    (hf : test.value.Proper ∧ body.Fits ∧ links.Fits)
    (hn : (Stmt.branch word test body links other).nesting ≤ depth + 1) :
    ∃ n, c.ahead.length < n ∧ ifStatement (expression (depth + 1)) inner s =
      alternatives (expression (depth + 1)) inner n
        (s.after ((Stmt.branch word test body links .none).emission s.types s.output.indent) c) := by
  obtain ⟨c₁, hm₁, hrest⟩ := hm.head_split
  obtain ⟨c₃, halts, hnone⟩ := hrest.split
  obtain rfl := hnone.eq_of_nil
  obtain ⟨c₂, hm₂, hm₃⟩ := halts.split
  have hnest := Nat.max_le.1 hn
  have hguard := Nat.max_le.1 hnest.1
  have hat : GuardAt depth c₁ test body c₂ :=
    ⟨hm₂, hf.1, hguard.1, hf.2.1, Nat.le_of_succ_le_succ hguard.2⟩
  have hlen := hm₃.length_ahead
  have hlinks := links.length_le_yield
  refine ⟨c₂.ahead.length + 1 - links.length, by omega, ?_⟩
  refine (bind_ok (guarded_of_moves hg hq hm₁ hat)).trans ((bind_ok remaining_eq).trans ?_)
  have hcount : c₂.ahead.length + 1 = links.length + (c₂.ahead.length + 1 - links.length) := by
    omega
  rw [State.cursor_after, hcount, alternatives_of_links hg links _ (s := s.after _ c₂) hq hm₃
    hf.2.2 (Nat.max_le.1 hnest.2).1, State.after_after, branch_emission, State.indent_after,
    alternativesEmission, Other.emission, Emission.append_empty, Nat.add_sub_cancel_left]
  rfl

theorem ifStatement_of_moves (hg : Generates depth inner) {word : Mark} {test : Test}
    {body : Block} {links : Links} {other : Other} (hq : s.debug = false)
    (hat : StmtAt (depth + 1) s.cursor (.branch word test body links other) c) :
    ifStatement (expression (depth + 1)) inner s =
      .ok () (s.after ((Stmt.branch word test body links other).emission s.types
        s.output.indent) c) := by
  obtain ⟨c₁, hm₁, hm⟩ := hat.moves.head_split
  obtain ⟨c₂, hm₂, hm₃⟩ := hm.split
  have hfits := hat.fits
  have hlinks : s.cursor.Moves (Stmt.branch word test body links .none).yield c₂ := by
    simpa [Stmt.yield, Other.yield] using hm₁.trans hm₂
  obtain ⟨n, hn, heq⟩ := ifStatement_of_links (s := s) hg hq hlinks
    ⟨hfits.1, hfits.2.1, hfits.2.2.1⟩ hat.nesting
  have hother : AlternativesAt depth c₂ .nil other c :=
    ⟨hm₃, trivial, hfits.2.2.2, Nat.zero_le _, (Nat.max_le.1 (Nat.max_le.1 hat.nesting).2).2⟩
  rw [heq, alternatives_of_moves hg (s := s.after _ c₂) hq hother (Nat.zero_lt_of_lt hn),
    State.after_after, State.indent_after, State.types_after, ← branch_other]

theorem of_functionDeclaration_ok (hg : Generates depth inner) (hq : s.debug = false)
    (hs : s.cursor.Sealed) (hk : s.cursor.here.kind = .keyword .functionK)
    (h : functionDeclaration inner s = .ok () s') : Written (depth + 1) s s' := by
  obtain ⟨_, s₁, h₁, h⟩ := of_bind_ok h
  obtain ⟨word, c₁, -, hm₁, rfl⟩ := of_advance_ok hs hk (by simp) h₁
  have hs₁ := hm₁.isSealed hs
  obtain ⟨_, s₂, h₂, h⟩ := of_bind_ok h
  obtain ⟨name, c₂, rfl, hm₂, rfl⟩ := of_expect_ok (s := s.move c₁) hq hs₁ (by decide) h₂
  have hs₂ := hm₂.isSealed hs₁
  obtain ⟨_, s₃, h₃, h⟩ := of_bind_ok h
  obtain ⟨opening, c₃, -, hm₃, rfl⟩ := of_expect_ok (s := s.move c₂) hq hs₂ (by decide) h₃
  have hs₃ := hm₃.isSealed hs₂
  replace h := (bind_ok remaining_eq).symm.trans h
  obtain ⟨_, s₄, h₄, h⟩ := of_bind_ok h
  obtain ⟨r, hr, rfl⟩ := of_lift_ok h₄
  obtain ⟨params, c₄, hm₄, rfl, rfl⟩ :=
    of_parameters_ok (r := (s.move c₃).toReading) hq hs₃ hr
  have hs₄ := hm₄.isSealed hs₃
  obtain ⟨_, s₅, h₅, h⟩ := of_bind_ok h
  obtain ⟨closing, c₅, -, hm₅, rfl⟩ := of_expect_ok (s := s.move c₄) hq hs₄ (by decide) h₅
  replace h := (bind_ok (show write _ (s.move c₅) = .ok () _ from rfl)).symm.trans h
  replace h := (bind_ok (note_quiet (by exact hq) _)).symm.trans h
  replace h := (bind_ok (show (get : Gen State) _ = .ok _ _ from rfl)).symm.trans h
  replace h := (bind_ok (show write _ _ = .ok () _ from rfl)).symm.trans h
  obtain ⟨_, s₆, h₆, h⟩ := of_bind_ok h
  obtain ⟨body, c₆, hm₆, hf, hn, rfl⟩ :=
    of_block_ok hg (by exact hq) (by exact hm₅.isSealed hs₄) h₆
  cases h
  refine ⟨.function word name opening params closing body, c₆, ⟨?_, hf, Nat.succ_le_succ hn⟩, ?_⟩
  · exact hm₁.trans (hm₂.trans (hm₃.trans (hm₄.trans (hm₅.trans hm₆))))
  · exact congrArg (State.mk _ _) (s.output.closeFunction_extend name.value params.names _)

theorem functionDeclaration_of_moves (hg : Generates depth inner) {word name opening : Mark}
    {params : Params} {closing : Mark} {body : Block} (hq : s.debug = false)
    (hat : StmtAt (depth + 1) s.cursor (.function word name opening params closing body) c) :
    functionDeclaration inner s =
      .ok () (s.after ((Stmt.function word name opening params closing body).emission s.types
        s.output.indent) c) := by
  obtain ⟨c₁, hm₁, hm⟩ := hat.moves.head_split
  obtain ⟨c₂, hm₂, hm⟩ := hm.head_split
  obtain ⟨c₃, hm₃, hm⟩ := hm.head_split
  obtain ⟨c₄, hm₄, hm⟩ := hm.split
  obtain ⟨c₅, hm₅, hm₆⟩ := hm.head_split
  have hlen := hm₄.length_ahead
  have hparams := parameters_of_moves (r := (s.move c₃).toReading) (k := c₃.ahead.length + 1) hq
    hm₄ (by rw [hm₅.here_eq]; rfl) (by omega)
  refine (bind_ok (advance_of_moves hm₁)).trans ?_
  refine (bind_ok (expect_of_moves (s := s.move c₁) hq hm₂ rfl)).trans ?_
  refine (bind_ok (expect_of_moves (s := s.move c₂) hq hm₃ rfl)).trans ?_
  refine (bind_ok remaining_eq).trans ?_
  refine (bind_ok (lift_move (s := s.move c₃) hparams)).trans ?_
  refine (bind_ok (expect_of_moves (s := s.move c₄) hq hm₅ rfl)).trans ?_
  refine (bind_ok (show write _ (s.move c₅) = .ok () _ from rfl)).trans ?_
  refine (bind_ok (note_quiet (by exact hq) _)).trans ?_
  refine (bind_ok (show (get : Gen State) _ = .ok _ _ from rfl)).trans ?_
  refine (bind_ok (show write _ _ = .ok () _ from rfl)).trans ?_
  refine (bind_ok (block_of_moves hg (by exact hq) (by exact hm₆) hat.fits
    (Nat.le_of_succ_le_succ hat.nesting))).trans ?_
  exact congrArg (fun o => EStateM.Result.ok () (State.mk _ _ o))
    (s.output.closeFunction_extend name.value params.names _)

end

/-! ## The dispatch -/

section

variable {depth : Nat} {inner handler : Gen Unit} {s s' : State} {c : Cursor} {t : Stmt}

theorem skipLines_eq : (Read.skipLines : Gen Unit) s = .ok () (s.move s.cursor.skipNewlines) := rfl

theorem statementOver_eq (hb : s.cursor.here.kind.betweenStatements = false) :
    statementOver depth inner s =
      (match statementFor? depth inner s.cursor.here.kind with
        | some handler => do
          Read.note (.statement s.cursor.here)
          handler
        | none => Read.skip : Gen Unit) s := by
  have hskip : s.cursor.skipNewlines = s.cursor :=
    Cursor.skipNewlines_of_ne (by intro hk; rw [hk] at hb; cases hb)
  have hstop : ¬ (s.cursor.here.kind = .rbrace ∨ s.cursor.here.kind = .eof) := by
    rintro (hk | hk) <;> rw [hk] at hb <;> cases hb
  refine (bind_ok skipLines_eq).trans ?_
  rw [hskip]
  refine (bind_ok current_eq).trans ?_
  exact congrFun (if_neg hstop) s

theorem statementOver_of_handler (hq : s.debug = false)
    (hb : s.cursor.here.kind.betweenStatements = false)
    (hh : statementFor? depth inner s.cursor.here.kind = some handler) :
    statementOver depth inner s = handler s := by
  rw [statementOver_eq hb, hh]
  exact bind_ok (note_quiet hq _)

/-- Where no statement starts, a token is passed over, unless it stands between
statements. -/
theorem skippable_of_statementFor? {kind : TokenKind} (hb : kind.betweenStatements = false)
    (hh : statementFor? depth inner kind = none) : kind.skippable = true := by
  cases kind with
  | keyword word => cases word <;> first | rfl | cases hh
  | builtin word => cases word <;> first | rfl | cases hh
  | identifier => cases hh
  | newline | rbrace | eof => cases hb
  | _ => rfl

theorem statementFor?_of_skippable {kind : TokenKind} (hk : kind.skippable = true) :
    statementFor? depth inner kind = none := by
  cases kind with
  | keyword word => cases word <;> first | rfl | cases hk
  | builtin word => cases word <;> first | rfl | cases hk
  | _ => first | rfl | cases hk

/-- A statement that is generated is one of the forms, by its first token. -/
theorem of_statementOver_ok (hg : Generates depth inner) (hq : s.debug = false)
    (hs : s.cursor.Sealed) (hb : s.cursor.here.kind.betweenStatements = false)
    (h : statementOver (depth + 1) inner s = .ok () s') : Written (depth + 1) s s' := by
  cases hh : statementFor? (depth + 1) inner s.cursor.here.kind with
  | none =>
      have hk := skippable_of_statementFor? hb hh
      have hm := hs.moves_next (by intro he; rw [he] at hb; cases hb)
      rw [statementOver_eq hb, hh] at h
      cases (skip_of_moves hq hm hk).symm.trans h
      exact ⟨.skipped s.cursor.here hk, _, ⟨hm, trivial, Nat.succ_le_succ (Nat.zero_le _)⟩, rfl⟩
  | some handler =>
      rw [statementOver_of_handler hq hb hh] at h
      -- the kinds that have a handler, each with its form
      cases hk : s.cursor.here.kind with
      | keyword word =>
          rw [hk] at hh
          cases word with
          | varK => cases hh; exact of_varDeclaration_ok hq hs hk h
          | printK => cases hh; exact of_printStatement_ok hq hs hk h
          | whileK => cases hh; exact of_whileStatement_ok hg hq hs hk h
          | ifK => cases hh; exact of_ifStatement_ok hg hq hs hk h
          | elseK => cases hh
          | functionK => cases hh; exact of_functionDeclaration_ok hg hq hs hk h
          | returnK => cases hh; exact of_returnStatement_ok hq hs hk h
          | writeFileK => cases hh; exact of_writeFileStatement_ok hq hs hk h
      | builtin word =>
          rw [hk] at hh
          cases word with
          | readFile => cases hh; exact of_readFileStatement_ok hq hs hk h
          | _ => cases hh
      | identifier =>
          rw [hk] at hh
          cases hh
          exact of_nameStatement_ok hq hs hk h
      | _ => rw [hk] at hh; cases hh

theorem statementOver_of_moves (hg : Generates depth inner) (hq : s.debug = false)
    (hat : StmtAt (depth + 1) s.cursor t c) :
    statementOver (depth + 1) inner s =
      .ok () (s.after (t.emission s.types s.output.indent) c) := by
  have hhere : s.cursor.here.kind = nextKind t.yield := by
    rw [← nextKind_rest, hat.moves.rest, nextKind_append t.yield_ne_nil]
  have hb : s.cursor.here.kind.betweenStatements = false := by rw [hhere, t.nextKind_yield]
  have handled : ∀ handler, statementFor? (depth + 1) inner (nextKind t.yield) = some handler →
      statementOver (depth + 1) inner s = handler s := fun handler hh =>
    statementOver_of_handler hq hb (by rw [hhere]; exact hh)
  cases t with
  | declare word name equal value =>
      exact (handled _ rfl).trans (varDeclaration_of_moves hq hat)
  | print word value => exact (handled _ rfl).trans (printStatement_of_moves hq hat)
  | loop word test body => exact (handled _ rfl).trans (whileStatement_of_moves hg hq hat)
  | branch word test body links other =>
      exact (handled _ rfl).trans (ifStatement_of_moves hg hq hat)
  | function word name opening params closing body =>
      exact (handled _ rfl).trans (functionDeclaration_of_moves hg hq hat)
  | give word value => exact (handled _ rfl).trans (returnStatement_of_moves hq hat)
  | writeFile word opening name comma content closing =>
      exact (handled _ rfl).trans (writeFileStatement_of_moves hq hat)
  | readFile word opening name closing =>
      exact (handled _ rfl).trans (readFileStatement_of_moves hq hat)
  | assign name equal value => exact (handled _ rfl).trans (nameStatement_assign hq hat)
  | call name opening args closing => exact (handled _ rfl).trans (nameStatement_call hq hat)
  | idle name => exact (handled _ rfl).trans (nameStatement_idle hat)
  | skipped tok hk =>
      have hnone : statementFor? (depth + 1) inner s.cursor.here.kind = none := by
        rw [hhere]
        exact statementFor?_of_skippable hk
      rw [statementOver_eq hb, hnone]
      exact skip_of_moves hq hat.moves hk

theorem statementOver_stop (hk : s.cursor.here.kind = .rbrace ∨ s.cursor.here.kind = .eof) :
    statementOver depth inner s = .ok () s := by
  have hskip : s.cursor.skipNewlines = s.cursor :=
    Cursor.skipNewlines_of_ne (by rcases hk with hk | hk <;> rw [hk] <;> simp)
  refine (bind_ok skipLines_eq).trans ?_
  rw [hskip]
  refine (bind_ok current_eq).trans ?_
  exact congrFun (if_pos hk) s

theorem generates_statementOver (hg : Generates depth inner) :
    Generates (depth + 1) (statementOver (depth + 1) inner) where
  sound hq hs hb h := of_statementOver_ok hg hq hs hb h
  complete hq hat := statementOver_of_moves hg hq hat
  line := by
    intro s _ hl
    refine (bind_ok skipLines_eq).trans (Eq.trans ?_ (bind_ok skipLines_eq).symm)
    rw [State.cursor_move, Cursor.skipNewlines_next hl]
    rfl
  stop _ hk := statementOver_stop hk
  pos _ := Nat.succ_pos depth

end

/-- Statements of every depth are read as trees and written as their emission. -/
theorem generates_statement (depth : Nat) : Generates depth (statement depth) := by
  induction depth with
  | zero =>
      refine ⟨?_, ?_, ?_, ?_, ?_⟩
      · intro s s' hq hs hb h
        cases h
      · intro s t c hq hat
        exact absurd (Nat.le_trans t.one_le_nesting hat.nesting) (Nat.not_succ_le_zero 0)
      · intro s hd
        cases hd
      · intro s hd
        cases hd
      · intro s s' h
        cases h
  | succ depth ih => exact generates_statementOver ih

end Gen

end StageZero
