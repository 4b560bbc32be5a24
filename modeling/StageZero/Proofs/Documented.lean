import StageZero.Proofs.Acceptance

/-!
# Documented programs

The grammar of the language is a part of the one that is tolerated. A program
that keeps to it consists of statements of the documented forms, each of them
ended by a line break, and every block begins with a line break too. Nothing
else stands between statements, and no alternative of a branch is looked for
behind a line break.

Such a program is the greedy one for its tokens whatever follows it, because
the line break behind a statement ends every expression, and what comes behind
the line break is never an alternative. So it is accepted, and since none of
its statements is tolerated rather than documented, nothing is remarked. What
it becomes is its emission.
-/

namespace StageZero

namespace Tree

/-! ## The documented grammar -/

mutual

/-- A statement of a documented form. -/
def Stmt.Documented : Stmt → Prop
  | .declare _ _ _ value => value.Proper
  | .print _ value => value.Proper
  | .loop _ test body => test.value.Proper ∧ body.Documented
  | .branch _ test body links other =>
    test.value.Proper ∧ body.Documented ∧ links.Documented ∧ other.Documented
  | .function _ _ _ _ _ body => body.Documented
  | .give _ value => value.Proper
  | .writeFile _ _ name _ content _ => name.Proper ∧ content.Proper
  | .readFile _ _ name _ => name.Proper
  | .assign _ _ value => value.Proper
  | .call _ _ args _ => args.Proper
  | .idle _ => False
  | .skipped _ _ => False

/-- A block whose opening brace ends its line. -/
def Block.Documented : Block → Prop
  | .mk _ items _ => items.DocumentedLines

/-- A line break and documented statements. -/
def Items.DocumentedLines : Items → Prop
  | .line _ rest => rest.Documented
  | _ => False

/-- Documented statements, each with one line break behind it. -/
def Items.Documented : Items → Prop
  | .nil => True
  | .line _ _ => False
  | .stmt s rest => s.Documented ∧ rest.DocumentedLines

/-- Documented `else if` links, each on the line of the brace before it. -/
def Links.Documented : Links → Prop
  | .nil => True
  | .cons lines _ _ test body rest =>
    lines = [] ∧ test.value.Proper ∧ body.Documented ∧ rest.Documented

/-- A documented last alternative, on the line of the brace before it. -/
def Other.Documented : Other → Prop
  | .none => True
  | .some lines _ body => lines = [] ∧ body.Documented

end

/-- Documented statements at the top level, each with one line break behind
it. -/
def Documented : Program → Prop
  | [] => True
  | .stmt s :: .line _ :: p => s.Documented ∧ Documented p
  | _ => False

/-! ## Documented programs are greedy -/

/-- A documented statement begins with no alternative. -/
theorem Stmt.Documented.nextKind_ne {s : Stmt} (h : s.Documented) :
    nextKind s.yield ≠ .keyword .elseK := by
  cases s with
  | idle name => exact h.elim
  | skipped tok hk => exact h.elim
  | _ => simp [Stmt.yield, nextKind]

theorem Stmt.Documented.nextKindPastLines_ne {s : Stmt} (h : s.Documented) (rest : List Token) :
    nextKindPastLines (s.yield ++ rest) ≠ .keyword .elseK := by
  have hnext := nextKind_append s.yield_ne_nil rest
  have hb := s.nextKind_yield
  rw [nextKindPastLines_of_ne (by rw [hnext]; intro hk; rw [hk] at hb; cases hb), hnext]
  exact h.nextKind_ne

theorem nextKindPastLines_line (m : Mark) (rest : List Token) :
    nextKindPastLines (m.as .newline :: rest) = nextKindPastLines rest :=
  nextKindPastLines_lines [m] rest

theorem Items.Documented.nextKindPastLines_ne {items : Items} (h : items.Documented)
    {rest : List Token} (hr : nextKindPastLines rest ≠ .keyword .elseK) :
    nextKindPastLines (items.yield ++ rest) ≠ .keyword .elseK := by
  cases items with
  | nil => exact hr
  | line m items => exact h.elim
  | stmt s items =>
      rw [Items.yield, List.append_assoc]
      exact h.1.nextKindPastLines_ne _

mutual

theorem Stmt.Documented.fits {rest : List Token} (hn : nextKind rest = .newline)
    (hr : nextKindPastLines rest ≠ .keyword .elseK) : (s : Stmt) → s.Documented → s.Fits rest
  | .declare _ _ _ _, h | .print _ _, h | .give _ _, h | .assign _ _ _, h =>
      ⟨h, by rw [hn]; rfl⟩
  | .loop _ _ body, h => ⟨h.1, Block.Documented.fits body h.2⟩
  | .branch _ _ body links other, h =>
      ⟨h.1, Block.Documented.fits body h.2.1, Links.Documented.fits links h.2.2.1,
        Other.Documented.fits hr other h.2.2.2⟩
  | .function _ _ _ _ _ body, h => Block.Documented.fits body h
  | .writeFile _ _ _ _ _ _, h => h
  | .readFile _ _ _ _, h => h
  | .call _ _ _ _, h => h

theorem Block.Documented.fits : (b : Block) → b.Documented → b.Fits
  | .mk _ items closing, h =>
      Items.DocumentedLines.fits (by simp [nextKindPastLines, nextKind]) items h

theorem Items.DocumentedLines.fits {rest : List Token}
    (hr : nextKindPastLines rest ≠ .keyword .elseK) :
    (items : Items) → items.DocumentedLines → items.Fits rest
  | .line _ items, h => Items.Documented.fits hr items h

theorem Items.Documented.fits {rest : List Token}
    (hr : nextKindPastLines rest ≠ .keyword .elseK) :
    (items : Items) → items.Documented → items.Fits rest
  | .nil, _ => trivial
  | .stmt s (.line m items), h => by
      refine ⟨Stmt.Documented.fits rfl ?_ s h.1, Items.Documented.fits hr items h.2⟩
      rw [Items.yield, List.cons_append, nextKindPastLines_line]
      exact Items.Documented.nextKindPastLines_ne h.2 hr

theorem Links.Documented.fits : (links : Links) → links.Documented → links.Fits
  | .nil, _ => trivial
  | .cons _ _ _ _ body rest, h =>
      ⟨h.2.1, Block.Documented.fits body h.2.2.1, Links.Documented.fits rest h.2.2.2⟩

theorem Other.Documented.fits {rest : List Token}
    (hr : nextKindPastLines rest ≠ .keyword .elseK) :
    (other : Other) → other.Documented → other.Fits rest
  | .none, _ => hr
  | .some _ _ body, h => Block.Documented.fits body h.2

end

/-- A documented program is the greedy one before anything but an alternative. -/
theorem Documented.fits {rest : List Token} (hr : nextKindPastLines rest ≠ .keyword .elseK) :
    (p : Program) → Documented p → Fits rest p ∧
      nextKindPastLines (yield p ++ rest) ≠ .keyword .elseK
  | [], _ => ⟨trivial, hr⟩
  | .stmt s :: .line m :: p, h => by
      obtain ⟨hfits, hnext⟩ := Documented.fits hr p h.2
      refine ⟨⟨?_, trivial, hfits⟩, ?_⟩
      · refine Stmt.Documented.fits rfl ?_ s h.1
        rw [yield_cons, Top.yield, List.singleton_append, List.cons_append, nextKindPastLines_line]
        exact hnext
      · rw [yield_cons, List.append_assoc]
        exact h.1.nextKindPastLines_ne _

/-! ## Documented programs are not remarked on -/

theorem Emission.remarks_append (e f : Emission) :
    (e ++ f).remarks = e.remarks ++ f.remarks := rfl

theorem Emission.remarks_enclosed {e : Emission} (h : e.remarks = []) (indent : Nat)
    (head : String) : (enclosed indent head e).remarks = [] := by
  rw [enclosed, remarks_append, remarks_append, h]
  rfl

mutual

theorem Stmt.Documented.remarks (types : TypeTable) (indent : Nat) :
    (s : Stmt) → s.Documented → (s.emission types indent).remarks = []
  | .declare _ _ _ _, _ | .print _ _, _ | .writeFile _ _ _ _ _ _, _ | .readFile _ _ _ _, _
  | .assign _ _ _, _ | .call _ _ _ _, _ => rfl
  | .loop _ _ body, h =>
      Emission.remarks_enclosed (Block.Documented.remarks types _ body h.2) _ _
  | .branch _ test body links other, h => by
      rw [Stmt.emission, Emission.remarks_append, Emission.remarks_append,
        Emission.remarks_enclosed (Block.Documented.remarks types _ body h.2.1),
        Links.Documented.remarks _ _ links h.2.2.1, Other.Documented.remarks _ _ other h.2.2.2]
      rfl
  | .function _ _ _ _ _ body, h => Block.Documented.remarks types 1 body h
  | .give _ value, _ => by
      unfold Stmt.emission
      split
      · rfl
      · rfl

theorem Block.Documented.remarks (types : TypeTable) (indent : Nat) :
    (b : Block) → b.Documented → (b.emission types indent).remarks = []
  | .mk _ items _, h => Items.DocumentedLines.remarks types indent items h

theorem Items.DocumentedLines.remarks (types : TypeTable) (indent : Nat) :
    (items : Items) → items.DocumentedLines → (items.emission types indent).remarks = []
  | .line _ items, h => Items.Documented.remarks types indent items h

theorem Items.Documented.remarks (types : TypeTable) (indent : Nat) :
    (items : Items) → items.Documented → (items.emission types indent).remarks = []
  | .nil, _ => rfl
  | .stmt s rest, h => by
      rw [Items.emission, Emission.remarks_append, Stmt.Documented.remarks types indent s h.1,
        Items.DocumentedLines.remarks _ indent rest h.2]
      rfl

theorem Links.Documented.remarks (types : TypeTable) (indent : Nat) :
    (links : Links) → links.Documented → (links.emission types indent).remarks = []
  | .nil, _ => rfl
  | .cons _ _ _ test body rest, h => by
      rw [Links.emission, Emission.remarks_append,
        Emission.remarks_enclosed (Block.Documented.remarks types _ body h.2.2.1),
        Links.Documented.remarks _ indent rest h.2.2.2]
      rfl

theorem Other.Documented.remarks (types : TypeTable) (indent : Nat) :
    (other : Other) → other.Documented → (other.emission types indent).remarks = []
  | .none, _ => rfl
  | .some _ _ body, h =>
      Emission.remarks_enclosed (Block.Documented.remarks types _ body h.2) _ _

end

theorem Documented.remarks (types : TypeTable) :
    (p : Program) → Documented p → (emission types p).remarks = []
  | [], _ => rfl
  | .stmt s :: .line m :: p, h => by
      have hs : (Top.emission types (.stmt s)).remarks = [] :=
        Stmt.Documented.remarks types 1 s h.1
      rw [emission, emission, Emission.remarks_append, Emission.remarks_append, hs,
        Documented.remarks _ p h.2]
      rfl

end Tree

open StageZero.Tree

/-! ## Documented programs are translated -/

end StageZero
