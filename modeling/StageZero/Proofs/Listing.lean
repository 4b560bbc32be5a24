import StageZero.Proofs.Kinds
import StageZero.Proofs.Outline

/-!
# Listings

An outline has the lines of a program and no longer knows what they are lines of. A
listing does: its entries are the steps through a program in the order of its tokens,
each with the types that are known there. What is said about all variables, all
references or all calls of a program is said about the entries of its listing.

That nothing is missing from a listing, and nothing in it is made up, is `Listed`: its
lines are those that are written, its tokens are in the token list in their order, and
the types of an entry are those that the entries before it have declared.
-/

namespace StageZero.Tree

/-- Whether no block belongs to a statement. -/
def Stmt.isSimple : Stmt → Bool
  | .loop _ _ _ | .branch _ _ _ _ _ | .function _ _ _ _ _ _ => false
  | _ => true

/-- A step through a program: a statement without a block, or one end of a block. -/
inductive Step where
  | simple (s : Stmt) (h : s.isSimple = true)
  | opening (word : String) (test : Test)
  | otherwise
  | closing

/-- A step with what is known before it. -/
structure Entry where
  types : TypeTable
  indent : Nat
  step : Step

namespace Entry

/-- What is written at the step. -/
def lines (e : Entry) : List String :=
  match e.step with
  | .simple s _ => (s.emission e.types e.indent).lines
  | .opening word test => (Emission.line e.indent (test.head e.types word ++ " \x7b")).lines
  | .otherwise => (Emission.line e.indent "else \x7b").lines
  | .closing => (Emission.line e.indent "\x7d").lines

/-- The tokens of the step. Those of braces and of the words before conditions are left
out. -/
def tokens (e : Entry) : List Token :=
  match e.step with
  | .simple s _ => s.yield
  | .opening _ test => test.yield
  | _ => []

/-- The variable that is declared at the step, if it is a declaration, with the kind of
its value. -/
def declared (e : Entry) : List (Mark × ValueKind) :=
  match e.step with
  | .simple (.declare _ name _ value) _ => [(name, (value.fragment e.types).kind)]
  | _ => []

end Entry

/-- The declarations among some entries. -/
def declarations (es : List Entry) : List (String × ValueKind) :=
  (es.flatMap Entry.declared).map fun d => (d.1.value, d.2)

theorem declarations_append (es fs : List Entry) :
    declarations (es ++ fs) = declarations es ++ declarations fs := by
  simp [declarations]

/-- Each entry has the types that the entries before it have declared. -/
inductive Threaded : TypeTable → List Entry → Prop where
  | nil {types : TypeTable} : Threaded types []
  | cons {e : Entry} {es : List Entry}
      (h : Threaded (e.types.declareAll (declarations [e])) es) : Threaded e.types (e :: es)

theorem Threaded.append {types : TypeTable} {es fs : List Entry} (h : Threaded types es)
    (h' : Threaded (types.declareAll (declarations es)) fs) : Threaded types (es ++ fs) := by
  induction h with
  | nil => exact h'
  | @cons e es _ ih =>
      refine .cons (ih ?_)
      rwa [← TypeTable.declareAll_append, ← declarations_append]

theorem Threaded.types_eq {types : TypeTable} {before after : List Entry} {e : Entry}
    (h : Threaded types (before ++ e :: after)) :
    e.types = types.declareAll (declarations before) := by
  induction before generalizing types with
  | nil => cases h; rfl
  | cons d before ih =>
      cases h with
      | cons h =>
          rw [ih h, ← TypeTable.declareAll_append, ← declarations_append]
          rfl

/-! ## Listings -/

/-- The entries of a program, those of a function apart from those around it. -/
inductive Listing where
  | nil
  | entry (e : Entry) (rest : Listing)
  | function (name : Mark) (params : Params) (inner rest : Listing)

namespace Listing

def append : Listing → Listing → Listing
  | .nil, l => l
  | .entry e rest, l => .entry e (rest.append l)
  | .function name params inner rest, l => .function name params inner (rest.append l)

instance : Append Listing := ⟨append⟩

@[simp] theorem nil_append (l : Listing) : nil ++ l = l := rfl

@[simp] theorem entry_append (e : Entry) (rest l : Listing) :
    entry e rest ++ l = entry e (rest ++ l) := rfl

@[simp] theorem function_append (name : Mark) (params : Params) (inner rest l : Listing) :
    function name params inner rest ++ l = function name params inner (rest ++ l) := rfl

/-- All entries, in the order of their tokens. -/
def entries : Listing → List Entry
  | .nil => []
  | .entry e rest => e :: rest.entries
  | .function _ _ inner rest => inner.entries ++ rest.entries

/-- The lines of the entries, in the functions that they lie in. -/
def outline : Listing → Outline
  | .nil => .nil
  | .entry e rest => Outline.entries e.lines ++ rest.outline
  | .function name params inner rest => .function name params inner.outline rest.outline

variable (l l' : Listing)

@[simp] theorem entries_append : (l ++ l').entries = l.entries ++ l'.entries := by
  induction l with
  | nil => rfl
  | entry e rest ih => rw [entry_append, entries, entries, ih, List.cons_append]
  | function name params inner rest _ ih =>
      rw [function_append, entries, entries, ih, List.append_assoc]

@[simp] theorem direct_outline_append :
    (l ++ l').outline.direct = l.outline.direct ++ l'.outline.direct := by
  induction l with
  | nil => rfl
  | entry e rest ih => simp [outline, ih]
  | function name params inner rest _ ih => simp [outline, Outline.direct, ih]

@[simp] theorem postorder_outline_append :
    (l ++ l').outline.postorder = l.outline.postorder ++ l'.outline.postorder := by
  induction l with
  | nil => rfl
  | entry e rest ih => simp [outline, ih]
  | function name params inner rest _ ih => simp [outline, Outline.postorder, ih]

/-- A line of an entry goes to the main body or to a function. -/
theorem line_mem {e : Entry} {line : String} (hline : line ∈ e.lines) {l : Listing}
    (he : e ∈ l.entries) :
    line ∈ l.outline.direct ∨ ∃ b ∈ l.outline.postorder, line ∈ b.lines := by
  induction l with
  | nil => cases he
  | entry d rest ih =>
      simp only [outline, Outline.direct_append, Outline.direct_entries, Outline.postorder_append,
        Outline.postorder_entries, List.nil_append]
      rcases List.mem_cons.1 he with rfl | he
      · exact .inl (List.mem_append_left _ hline)
      · exact (ih he).imp_left (List.mem_append_right _)
  | function name params inner rest ih ih' =>
      simp only [outline, Outline.direct, Outline.postorder]
      rcases List.mem_append.1 he with he | he
      · right
        rcases ih he with hdirect | ⟨b, hb, hmem⟩
        · exact ⟨_, List.mem_append_right _ List.mem_cons_self, hdirect⟩
        · exact ⟨b, List.mem_append_left _ hb, hmem⟩
      · rcases ih' he with hdirect | ⟨b, hb, hmem⟩
        · exact .inl hdirect
        · exact .inr ⟨b, List.mem_append_right _ (List.mem_cons_of_mem _ hb), hmem⟩

/-- The listing of a statement without a block. -/
def simple (types : TypeTable) (indent : Nat) (s : Stmt) (h : s.isSimple = true) : Listing :=
  .entry ⟨types, indent, .simple s h⟩ .nil

/-- The listing of a construct around that of its block. -/
def enclosed (types : TypeTable) (indent : Nat) (opening : Step) (inner : Listing) : Listing :=
  .entry ⟨types, indent, opening⟩ (inner ++
    .entry ⟨types.declareAll (declarations inner.entries), indent, .closing⟩ .nil)

end Listing

mutual

/-- The listing of a statement, at the depth and under the types with which it is
written. -/
def Stmt.listing (types : TypeTable) (indent : Nat) : Stmt → Listing
  | .loop _ test body =>
    .enclosed types indent (.opening "while" test) (body.listing types (indent + 1))
  | .branch _ test body links other =>
    let first := Emission.enclosed indent (test.head types "if") (body.emission types (indent + 1))
    let types₁ := types.declareAll first.declared
    let second := links.emission types₁ indent
    .enclosed types indent (.opening "if" test) (body.listing types (indent + 1)) ++
      links.listing types₁ indent ++ other.listing (types₁.declareAll second.declared) indent
  | .function _ name _ params _ body => .function name params (body.listing types 1) .nil
  | .declare word name equal value => .simple types indent (.declare word name equal value) rfl
  | .print word value => .simple types indent (.print word value) rfl
  | .give word value => .simple types indent (.give word value) rfl
  | .writeFile word opening name comma content closing =>
    .simple types indent (.writeFile word opening name comma content closing) rfl
  | .readFile word opening name closing =>
    .simple types indent (.readFile word opening name closing) rfl
  | .assign name equal value => .simple types indent (.assign name equal value) rfl
  | .call name opening args closing =>
    .simple types indent (.call name opening args closing) rfl
  | .idle name => .simple types indent (.idle name) rfl
  | .skipped tok h => .simple types indent (.skipped tok h) rfl

def Block.listing (types : TypeTable) (indent : Nat) : Block → Listing
  | .mk _ items _ => items.listing types indent

def Items.listing (types : TypeTable) (indent : Nat) : Items → Listing
  | .nil => .nil
  | .line _ rest => rest.listing types indent
  | .stmt s rest =>
    s.listing types indent ++
      rest.listing (types.declareAll (s.emission types indent).declared) indent

def Links.listing (types : TypeTable) (indent : Nat) : Links → Listing
  | .nil => .nil
  | .cons _ _ _ test body rest =>
    let e := Emission.enclosed indent (test.head types "else if") (body.emission types (indent + 1))
    .enclosed types indent (.opening "else if" test) (body.listing types (indent + 1)) ++
      rest.listing (types.declareAll e.declared) indent

def Other.listing (types : TypeTable) (indent : Nat) : Other → Listing
  | .none => .nil
  | .some _ _ body => .enclosed types indent .otherwise (body.listing types (indent + 1))

end

def Top.listing (types : TypeTable) : Top → Listing
  | .stmt s => s.listing types 1
  | _ => .nil

def listing (types : TypeTable) : Program → Listing
  | [] => .nil
  | t :: p => t.listing types ++ listing (types.declareAll (t.emission types).declared) p

/-! ## What a listing has of its tree -/

/-- A listing under some types, with what it is written as and the tokens it is of. -/
structure Listed (types : TypeTable) (l : Listing) (e : Emission) (ts : List Token) : Prop where
  lines : e.lines = l.outline.direct
  functions : e.functions = l.outline.postorder.map Body.text
  declared : e.declared = declarations l.entries
  threaded : Threaded types l.entries
  tokens : (l.entries.flatMap Entry.tokens).Sublist ts
  /-- Behind each word for a variable stands its name. -/
  names : ∀ us, followers (.keyword .varK) (ts ++ us) =
    (l.entries.flatMap Entry.declared).map (fun d => some (d.1.as .identifier)) ++
      followers (.keyword .varK) us

namespace Listed

variable {types : TypeTable} {l l' : Listing} {e f : Emission} {ts us : List Token}

theorem nil (hl : e.lines = []) (hf : e.functions = []) (hd : e.declared = [])
    (h : Without (.keyword .varK) ts) : Listed types .nil e ts where
  lines := hl
  functions := hf
  declared := hd
  threaded := .nil
  tokens := List.nil_sublist _
  names us := followers_append_of_without h us

theorem append (h : Listed types l e ts)
    (h' : Listed (types.declareAll e.declared) l' f us) :
    Listed types (l ++ l') (e ++ f) (ts ++ us) where
  lines := by
    show e.lines ++ f.lines = _
    rw [h.lines, h'.lines, Listing.direct_outline_append]
  functions := by
    rw [Emission.functions_append, h.functions, h'.functions, Listing.postorder_outline_append,
      List.map_append]
  declared := by
    rw [Emission.declared_append, h.declared, h'.declared, Listing.entries_append,
      declarations_append]
  threaded := by
    rw [Listing.entries_append]
    exact h.threaded.append (h.declared ▸ h'.threaded)
  tokens := by
    rw [Listing.entries_append, List.flatMap_append]
    exact h.tokens.append h'.tokens
  names vs := by
    rw [List.append_assoc, h.names, h'.names, Listing.entries_append, List.flatMap_append,
      List.map_append, List.append_assoc]

theorem behind (h : Listed types l e ts) (hb : Without (.keyword .varK) us) :
    Listed types l e (us ++ ts) where
  lines := h.lines
  functions := h.functions
  declared := h.declared
  threaded := h.threaded
  tokens := h.tokens.trans (List.sublist_append_right _ _)
  names vs := by
    rw [List.append_assoc, followers_append_of_without hb, h.names]

theorem ahead (h : Listed types l e ts) (hb : Without (.keyword .varK) us) :
    Listed types l e (ts ++ us) where
  lines := h.lines
  functions := h.functions
  declared := h.declared
  threaded := h.threaded
  tokens := h.tokens.trans (List.sublist_append_left _ _)
  names vs := by
    rw [List.append_assoc, h.names, followers_append_of_without hb]

/-- A step that declares nothing. -/
theorem plain {indent : Nat} {step : Step} (hlines : e.lines = (Entry.mk types indent step).lines)
    (hf : e.functions = []) (hd : e.declared = [])
    (hdeclared : (Entry.mk types indent step).declared = [])
    (htokens : ((Entry.mk types indent step).tokens).Sublist ts)
    (hts : Without (.keyword .varK) ts) :
    Listed types (.entry ⟨types, indent, step⟩ .nil) e ts where
  lines := by simp [Listing.outline, hlines]
  functions := by simp [Listing.outline, hf]
  declared := by simp [Listing.entries, declarations, hd, hdeclared]
  threaded := Threaded.cons (e := ⟨types, indent, step⟩) .nil
  tokens := by simpa [Listing.entries] using htokens
  names us := by simp [Listing.entries, hdeclared, followers_append_of_without hts]

theorem enclosed (h : Listed types l e ts) (indent : Nat) (opening : Step) (head : String)
    (hopening : Listed types (.entry ⟨types, indent, opening⟩ .nil)
      (Emission.line indent (head ++ " \x7b")) us) :
    Listed types (l.enclosed types indent opening) (Emission.enclosed indent head e)
      (us ++ ts) := by
  have hclosing : Listed (types.declareAll e.declared)
      (.entry ⟨types.declareAll e.declared, indent, .closing⟩ .nil) (.line indent "\x7d") [] :=
    .plain rfl rfl rfl rfl (List.nil_sublist _) without_nil
  have := (hopening.append h).append hclosing
  rw [List.append_nil, h.declared] at this
  exact this

/-- A construct with a condition. -/
theorem conditional (h : Listed types l e ts) (indent : Nat) (word : String) (test : Test)
    (htest : test.yield.Sublist us) (hus : Without (.keyword .varK) us) :
    Listed types (l.enclosed types indent (.opening word test))
      (Emission.enclosed indent (test.head types word) e) (us ++ ts) :=
  h.enclosed indent _ _ (.plain rfl rfl rfl rfl htest hus)

theorem function (h : Listed types l e ts) (name : Mark) (params : Params) :
    Listed types (.function name params l .nil) (Emission.function name.value params.names e)
      ts where
  lines := rfl
  functions := by
    rw [Listing.outline, Outline.postorder, List.map_append, ← h.functions, ← h.lines]
    rfl
  declared := by
    rw [Listing.entries, Listing.entries, List.append_nil, ← h.declared]
    rfl
  threaded := by
    rw [Listing.entries, Listing.entries, List.append_nil]
    exact h.threaded
  tokens := by
    rw [Listing.entries, Listing.entries, List.append_nil]
    exact h.tokens
  names us := by
    rw [Listing.entries, Listing.entries, List.append_nil]
    exact h.names us

end Listed

theorem Expr.kind_fragment_ne (types : TypeTable) (value : Expr) :
    (value.fragment types).kind ≠ .unknown := by
  rw [Expr.fragment, Fragment.kind_ofParts]
  exact Fragment.kind_join _

theorem variableKind_fragment (types : TypeTable) (value : Expr) :
    Gen.variableKind (value.fragment types) = (value.fragment types).kind := by
  unfold Gen.variableKind
  cases h : (value.fragment types).kind with
  | unknown => exact absurd h (value.kind_fragment_ne types)
  | _ => rfl

/-- Statements that declare nothing have no word for a variable. -/
theorem Stmt.without_var {s : Stmt} (hs : Without (.keyword .varK) s.openings) :
    Without (.keyword .varK) s.yield := by
  rw [← s.filter_opens] at hs
  exact without_of_filter_opens rfl hs

theorem Test.without_var (word : Mark) {kind : TokenKind} (hk : kind ≠ .keyword .varK)
    (test : Test) : Without (.keyword .varK) (word.as kind :: test.yield) := by
  refine (without_cons _ _).2 ⟨hk, without_of_filter_opens rfl ?_⟩
  rw [test.filter_opens]
  exact without_nil

mutual

theorem Stmt.listed (types : TypeTable) (indent : Nat) :
    (s : Stmt) → Listed types (s.listing types indent) (s.emission types indent) s.yield
  | .declare word name equal value => by
      have hrest : Without (.keyword .varK)
          (name.as .identifier :: equal.as .equal :: value.yield) :=
        without_of_filter_opens rfl (by simp [opens, TokenKind.opensStatement])
      exact {
        lines := by simp [Stmt.listing, Listing.simple, Listing.outline, Entry.lines]
        functions := by simp [Stmt.listing, Listing.simple, Listing.outline, Stmt.emission]
        declared := by
          simp [Stmt.listing, Listing.simple, Listing.entries, declarations, Entry.declared,
            Stmt.emission, variableKind_fragment]
        threaded := Threaded.cons (e := ⟨types, indent, .simple _ rfl⟩) .nil
        tokens := by simp [Stmt.listing, Listing.simple, Listing.entries, Entry.tokens]
        names := fun us => by
          rw [Stmt.yield, List.cons_append, followers_cons_of_eq (Mark.as_kind _ _),
            followers_append_of_without hrest]
          rfl }
  | .loop word test body =>
      (body.listed types (indent + 1)).conditional indent "while" test
        (List.sublist_cons_self _ _) (test.without_var word (by simp))
  | .branch word test body links other => by
      have hbody := (body.listed types (indent + 1)).conditional indent "if" test
        (List.sublist_cons_self (word.as (.keyword .ifK)) _) (test.without_var word (by simp))
      refine (hbody.append (links.listed _ indent)).append ?_
      rw [Emission.declared_append, TypeTable.declareAll_append]
      exact other.listed _ indent
  | .function word name opening params closing body => by
      have hhead : Without (.keyword .varK) (word.as (.keyword .functionK) ::
          name.as .identifier :: opening.as .lparen :: (params.yield ++ [closing.as .rparen])) := by
        have hparams : Without (.keyword .varK) params.yield :=
          without_of_inExpression params.inExpression_yield rfl
        simp [hparams]
      have h := ((body.listed types 1).function name params).behind hhead
      rwa [List.cons_append, List.cons_append, List.cons_append, List.append_assoc] at h
  | .print _ _ | .writeFile _ _ _ _ _ _ | .readFile _ _ _ _ | .assign _ _ _
  | .call _ _ _ _ | .idle _ =>
      .plain rfl rfl rfl rfl (List.Sublist.refl _) (Stmt.without_var (by simp [Stmt.openings]))
  | .give _ _ | .skipped _ _ => by
      refine .plain rfl ?_ ?_ rfl (List.Sublist.refl _)
        (Stmt.without_var (by simp [Stmt.openings]))
      · rw [Stmt.emission]
        split <;> rfl
      · rw [Stmt.emission]
        split <;> rfl

theorem Block.listed (types : TypeTable) (indent : Nat) :
    (b : Block) → Listed types (b.listing types indent) (b.emission types indent) b.yield
  | .mk left items right => by
      have hleft : Without (.keyword .varK) [left.as .lbrace] := by simp
      have hright : Without (.keyword .varK) [right.as .rbrace] := by simp
      exact ((items.listed types indent).ahead hright).behind hleft

theorem Items.listed (types : TypeTable) (indent : Nat) :
    (items : Items) →
      Listed types (items.listing types indent) (items.emission types indent) items.yield
  | .nil => .nil rfl rfl rfl without_nil
  | .line mark rest => by
      have hmark : Without (.keyword .varK) [mark.as .newline] := by simp
      exact (rest.listed types indent).behind hmark
  | .stmt s rest => (s.listed types indent).append (rest.listed _ indent)

theorem Links.listed (types : TypeTable) (indent : Nat) :
    (links : Links) →
      Listed types (links.listing types indent) (links.emission types indent) links.yield
  | .nil => .nil rfl rfl rfl without_nil
  | .cons lines other word test body rest => by
      have hwords : Without (.keyword .varK) (lineYield lines ++
          other.as (.keyword .elseK) :: word.as (.keyword .ifK) :: test.yield) :=
        without_of_filter_opens rfl (by simp [opens, TokenKind.opensStatement])
      have htest : test.yield.Sublist (lineYield lines ++
          other.as (.keyword .elseK) :: word.as (.keyword .ifK) :: test.yield) :=
        ((List.sublist_cons_self _ _).trans (List.sublist_cons_self _ _)).trans
          (List.sublist_append_right _ _)
      have hbody := (body.listed types (indent + 1)).conditional indent "else if" test htest hwords
      have hyield : (Links.cons lines other word test body rest).yield =
          lineYield lines ++ other.as (.keyword .elseK) :: word.as (.keyword .ifK) :: test.yield ++
            body.yield ++ rest.yield := by
        simp only [Links.yield, List.append_assoc, List.cons_append]
      rw [hyield]
      exact hbody.append (rest.listed _ indent)

theorem Other.listed (types : TypeTable) (indent : Nat) :
    (other : Other) →
      Listed types (other.listing types indent) (other.emission types indent) other.yield
  | .none => .nil rfl rfl rfl without_nil
  | .some lines word body => by
      have hwords : Without (.keyword .varK) (lineYield lines ++ [word.as (.keyword .elseK)]) :=
        without_of_filter_opens rfl (by simp [opens, TokenKind.opensStatement])
      have h := (body.listed types (indent + 1)).enclosed indent .otherwise "else"
        (.plain rfl rfl rfl rfl (List.nil_sublist _) hwords)
      rwa [List.append_assoc] at h

end

theorem listed (types : TypeTable) (p : Program) :
    Listed types (listing types p) (emission types p) (yield p) := by
  induction p generalizing types with
  | nil => exact .nil rfl rfl rfl without_nil
  | cons t p ih =>
      have htop : Listed types (t.listing types) (t.emission types) t.yield := by
        cases t with
        | line m => exact .nil rfl rfl rfl (by simp [Top.yield])
        | stray m => exact .nil rfl rfl rfl (by simp [Top.yield])
        | stmt s => exact s.listed types 1
      exact htop.append (ih _)

end StageZero.Tree
