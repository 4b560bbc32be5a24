import StageZero.Proofs.Operands

/-!
# The C that expressions are written as

A fragment is a text with a kind, and a text does not say which of the calls in it were
in the source and which the translation has put there. A `Term` is that text before its
pieces are put together. It has a node for every call, and the name of a routine is
written for such a node and for nothing else, unless the source itself has it for a name.

The terms of an expression are made as its fragments are made, step by step, and they are
written as these fragments. That its calls fit is then said about terms: it goes through
the joining of parts, through the folding of a chain and through arguments, and at the
bottom it needs of the source only that its numbers and names are not empty.
-/

namespace StageZero

/-! ## Terms -/

/-- A piece of C. -/
inductive Term where
  /-- A number or a name. -/
  | word (value : String)
  | text (value : String)
  | sign (o : Operator)
  | group (inner : Term)
  /-- Pieces side by side. An expression without parts is the row of none. -/
  | row (parts : List Term)
  | sum (left right : Term)
  /-- A call of a function of the source. -/
  | user (name : String) (args : List Term)
  /-- A call of a routine of the support library. -/
  | call (r : Routine) (args : List Term)

/-- For each routine of the support library, what it takes and what it gives. -/
def Support.signatures : List (String × List Slot × Option Slot) :=
  routines.map fun r => (r.name, r.params.map (·.1), r.result)

theorem Support.lookup_signatures {r : Routine} (h : r ∈ routines) :
    signatures.lookup r.name = some (r.params.map (·.1), r.result) := by
  have hrows : ∀ r ∈ routines,
      signatures.lookup r.name = some (r.params.map (·.1), r.result) := by
    decide +kernel
  exact hrows r h

namespace Term

mutual

/-- The text of a term. -/
def code : Term → String
  | .word value => value
  | .text value => cString value
  | .sign o => o.text
  | .group inner => "(" ++ inner.code ++ ")"
  | .row parts => Text.joinWith " " (codes parts)
  | .sum left right => "(" ++ left.code ++ " + " ++ right.code ++ ")"
  | .user name args => name ++ "(" ++ Text.joinWith ", " (codes args) ++ ")"
  | .call r args => r.call (codes args)

def codes : List Term → List String
  | [] => []
  | t :: ts => t.code :: codes ts

end

/-- A call passes as many arguments as its signature lists. Only an argument without parts
has nothing for its text, and what puts values together is never given one. -/
structure Fitting (r : Routine) (args : List Term) : Prop where
  listed : ∃ params result, Support.signatures.lookup r.name = some (params, result) ∧
    args.length = params.length
  filled : ∀ a ∈ args, a.code = "" → a = .row []
  joined : r ∈ Support.concatenations → ∀ a ∈ args, a.code ≠ ""

mutual

/-- All calls of routines in a term fit, and all else that is named in it is named by one
of the given words. -/
def Sound (words : List String) : Term → Prop
  | .word value => value ∈ words
  | .text _ | .sign _ => True
  | .group inner => inner.Sound words
  | .row parts => AllSound words parts
  | .sum left right => left.Sound words ∧ right.Sound words
  | .user name args => name ∈ words ∧ AllSound words args
  | .call r args => Fitting r args ∧ AllSound words args

def AllSound (words : List String) : List Term → Prop
  | [] => True
  | t :: ts => t.Sound words ∧ AllSound words ts

end

theorem codes_eq_map (ts : List Term) : codes ts = ts.map code := by
  induction ts with
  | nil => rfl
  | cons t ts ih => rw [codes, ih, List.map_cons]

theorem allSound_iff {words : List String} {ts : List Term} :
    AllSound words ts ↔ ∀ t ∈ ts, t.Sound words := by
  induction ts with
  | nil => simp [AllSound]
  | cons t ts ih => rw [AllSound, ih, List.forall_mem_cons]

end Term

theorem Text.joinWith_ne_empty {separator first : String} (h : first ≠ "") (rest : List String) :
    joinWith separator (first :: rest) ≠ "" := by
  cases rest with
  | nil => exact h
  | cons next rest =>
      intro hempty
      rw [joinWith, String.append_eq_empty_iff, String.append_eq_empty_iff] at hempty
      · exact h hempty.1.1
      · simp

/-! ## Pieces -/

/-- A term with the kind of its value. -/
structure Piece where
  term : Term
  kind : ValueKind

namespace Piece

def fragment (p : Piece) : Fragment :=
  ⟨p.term.code, p.kind⟩

def isPlus (p : Piece) : Bool :=
  p.fragment.isPlus

def isText (p : Piece) : Bool :=
  p.fragment.isText

def join (run : List Piece) : Piece :=
  ⟨.row (run.map (·.term)), if run.any isText then .text else .integer⟩

def operands (ps : List Piece) : List Piece :=
  ((ps.splitOnP isPlus).filter fun run => !run.isEmpty).map join

def add (a b : Piece) : Piece :=
  match Fragment.concatRoutine? a.kind b.kind with
  | some r => ⟨.call r [a.term, b.term], .text⟩
  | none => ⟨.sum a.term b.term, .integer⟩

def concatenate (ps : List Piece) : Piece :=
  match operands ps with
  | [] => ⟨.text "", .text⟩
  | [operand] => operand
  | operand :: rest => ⟨(rest.foldl add operand).term, .text⟩

def ofParts (ps : List Piece) : Piece :=
  if ps.any isText && ps.any isPlus && 3 ≤ ps.length then concatenate ps else join ps

/-! ### Pieces are written as fragments -/

theorem fragment_join (run : List Piece) : (join run).fragment = .join (run.map fragment) := by
  simp only [join, fragment, Fragment.join, Term.code, Term.codes_eq_map, List.map_map,
    List.any_map]
  rfl

theorem map_splitOnP (ps : List Piece) :
    (ps.splitOnP isPlus).map (·.map fragment) = Fragment.splitAtPlus (ps.map fragment) := by
  induction ps with
  | nil => rfl
  | cons p ps ih =>
      obtain ⟨run, runs, hruns⟩ := List.exists_cons_of_ne_nil (List.splitOnP_ne_nil isPlus ps)
      rw [List.splitOnP_cons_eq_if_modifyHead, List.map_cons, Fragment.splitAtPlus, ← ih, hruns,
        apply_ite (List.map (List.map fragment))]
      rfl

theorem map_operands (ps : List Piece) :
    (operands ps).map fragment = Fragment.operands (ps.map fragment) := by
  unfold operands Fragment.operands
  rw [← map_splitOnP, List.filter_map, List.map_map, List.map_map]
  have hempty : ((fun run : List Fragment => !run.isEmpty) ∘ fun run : List Piece =>
      run.map fragment) = fun run => !run.isEmpty := by
    funext run
    cases run <;> rfl
  rw [hempty]
  exact List.map_congr_left fun run _ => fragment_join run

theorem fragment_add (a b : Piece) : (add a b).fragment = .add a.fragment b.fragment := by
  unfold add Fragment.add
  show _ = match Fragment.concatRoutine? a.kind b.kind with
    | some _ => _
    | none => _
  cases Fragment.concatRoutine? a.kind b.kind with
  | none => rfl
  | some r => rfl

theorem fragment_foldl_add (first : Piece) (rest : List Piece) :
    (rest.foldl add first).fragment = (rest.map fragment).foldl .add first.fragment := by
  induction rest generalizing first with
  | nil => rfl
  | cons p rest ih => rw [List.foldl_cons, ih, fragment_add, List.map_cons, List.foldl_cons]

theorem fragment_concatenate (ps : List Piece) :
    (concatenate ps).fragment = .concatenate (ps.map fragment) := by
  unfold concatenate Fragment.concatenate
  rw [← map_operands]
  cases operands ps with
  | nil => rfl
  | cons first rest =>
      cases rest with
      | nil => rfl
      | cons next rest =>
          -- a chain is a text whatever the fold says, so only what is written is compared
          have hfold := fragment_foldl_add first (next :: rest)
          exact congrArg (fun f : Fragment => (⟨f.code, .text⟩ : Fragment)) hfold

theorem fragment_ofParts (ps : List Piece) :
    (ofParts ps).fragment = .ofParts (ps.map fragment) := by
  have hcond : (ps.any isText && ps.any isPlus && decide (3 ≤ ps.length)) =
      ((ps.map fragment).any Fragment.isText && (ps.map fragment).any Fragment.isPlus &&
        decide (3 ≤ (ps.map fragment).length)) := by
    rw [List.any_map, List.any_map, List.length_map]
    rfl
  unfold ofParts Fragment.ofParts
  rw [← hcond, apply_ite fragment, fragment_concatenate, fragment_join]

/-! ### Sound pieces -/

/-- A sound piece that is written as something. -/
structure Whole (words : List String) (p : Piece) : Prop where
  sound : p.term.Sound words
  code : p.term.code ≠ ""

variable {words : List String}

theorem whole_join {run : List Piece} (hne : run ≠ []) (h : ∀ p ∈ run, p.Whole words) :
    (join run).Whole words := by
  refine ⟨Term.allSound_iff.2 fun t ht => ?_, ?_⟩
  · obtain ⟨p, hp, rfl⟩ := List.mem_map.1 ht
    exact (h p hp).sound
  · obtain ⟨p, run, rfl⟩ := List.exists_cons_of_ne_nil hne
    rw [join, Term.code, Term.codes_eq_map]
    exact Text.joinWith_ne_empty (h p List.mem_cons_self).code _

/-- Runs with nothing in them are no operands. -/
theorem whole_operands {ps : List Piece} (h : ∀ p ∈ ps, p.Whole words) :
    ∀ o ∈ operands ps, o.Whole words := by
  intro o ho
  obtain ⟨run, hrun, rfl⟩ := List.mem_map.1 ho
  obtain ⟨hrun, hne⟩ := List.mem_filter.1 hrun
  refine whole_join ?_ fun p hp => h p (mem_of_mem_splitOnP hrun hp)
  rintro rfl
  cases hne

theorem whole_add {a b : Piece} (ha : a.Whole words) (hb : b.Whole words) :
    (add a b).Whole words := by
  unfold add
  cases hr : Fragment.concatRoutine? a.kind b.kind with
  | none => exact ⟨⟨ha.sound, hb.sound⟩, by simp [Term.code]⟩
  | some r =>
      obtain ⟨hmem, -, hparams⟩ := Chain.of_concatRoutine? hr
      have hargs : ∀ t ∈ [a.term, b.term], t.code ≠ "" := by
        simp [ha.code, hb.code]
      -- its parameters are of the two kinds, so there are two of them
      have hlength : r.params.length = 2 := by
        simpa using congrArg List.length hparams
      refine ⟨⟨{
        listed := ⟨_, _, Support.lookup_signatures (Support.concatenations_subset hmem), ?_⟩
        filled := fun t ht hempty => absurd hempty (hargs t ht)
        joined := fun _ => hargs }, ha.sound, hb.sound, trivial⟩, ?_⟩
      · rw [List.length_map, hlength]
        rfl
      · simp [Term.code, Routine.call]

theorem whole_foldl_add {first : Piece} {rest : List Piece} (hfirst : first.Whole words)
    (h : ∀ p ∈ rest, p.Whole words) : (rest.foldl add first).Whole words := by
  induction rest generalizing first with
  | nil => exact hfirst
  | cons p rest ih =>
      obtain ⟨hp, hrest⟩ := List.forall_mem_cons.1 h
      exact ih (whole_add hfirst hp) hrest

theorem whole_concatenate {ps : List Piece} (h : ∀ p ∈ ps, p.Whole words) :
    (concatenate ps).Whole words := by
  have hall := whole_operands h
  unfold concatenate
  cases hops : operands ps with
  | nil => exact ⟨trivial, by simp [Term.code, cString]⟩
  | cons first rest =>
      rw [hops] at hall
      obtain ⟨hfirst, hrest⟩ := List.forall_mem_cons.1 hall
      have hfold := whole_foldl_add hfirst hrest
      cases rest with
      | nil => exact hfirst
      | cons next rest => exact ⟨hfold.sound, hfold.code⟩

theorem whole_ofParts {ps : List Piece} (hne : ps ≠ []) (h : ∀ p ∈ ps, p.Whole words) :
    (ofParts ps).Whole words := by
  unfold ofParts
  split
  · exact whole_concatenate h
  · exact whole_join hne h

end Piece

/-- A sound term that is written as nothing only if it has no parts. -/
structure Term.Passable (words : List String) (t : Term) : Prop where
  sound : t.Sound words
  filled : t.code = "" → t = .row []

theorem Piece.passable_ofParts {words : List String} {ps : List Piece}
    (h : ∀ p ∈ ps, p.Whole words) : (ofParts ps).term.Passable words := by
  cases ps with
  | nil => exact ⟨trivial, fun _ => rfl⟩
  | cons p ps =>
      have hwhole := whole_ofParts (List.cons_ne_nil p ps) h
      exact ⟨hwhole.sound, fun hempty => absurd hempty hwhole.code⟩

/-- A call of a routine, and no concatenation, that passes what it has to. -/
theorem Term.fitting_of_passable {words : List String} {r : Routine} {args : List Term}
    (hr : r ∈ Support.routines) (hnot : r ∉ Support.concatenations)
    (hlength : args.length = r.arity) (h : ∀ a ∈ args, a.Passable words) :
    (Term.call r args).Sound words := by
  refine ⟨{
    listed := ⟨_, _, Support.lookup_signatures hr, ?_⟩
    filled := fun a ha => (h a ha).filled
    joined := fun hmem => absurd hmem hnot }, allSound_iff.2 fun a ha => (h a ha).sound⟩
  rw [List.length_map, hlength]
  rfl

/-! ## The terms of expressions -/

namespace Tree

mutual

/-- A part, as it is written. -/
def Part.piece (types : TypeTable) : Part → Piece
  | .integer digits => ⟨.word digits.value, .integer⟩
  | .string text => ⟨.text text.value, .text⟩
  | .name name => ⟨.word name.value, types.lookup name.value⟩
  | .sign o _ => ⟨.sign o, .unknown⟩
  | .group _ inner _ =>
    let e := Piece.ofParts (inner.pieces types)
    ⟨.group e.term, e.kind⟩
  | .call name _ args _ => ⟨.user name.value (args.terms types), .integer⟩
  | .builtin word _ _ args _ => ⟨.call word.routine (args.terms types), word.routine.kind⟩

def Expr.pieces (types : TypeTable) : Expr → List Piece
  | .nil => []
  | .cons head tail => head.piece types :: tail.pieces types

def Args.terms (types : TypeTable) {n : Nat} : Args n → List Term
  | .none => []
  | .some first more => (Piece.ofParts (first.pieces types)).term :: more.terms types

def More.terms (types : TypeTable) {n : Nat} : More n → List Term
  | .nil => []
  | .cons _ arg rest => (Piece.ofParts (arg.pieces types)).term :: rest.terms types

end

/-- An expression, as it is written. -/
def Expr.term (types : TypeTable) (e : Expr) : Term :=
  (Piece.ofParts (e.pieces types)).term

mutual

theorem Part.fragment_piece (types : TypeTable) :
    (p : Part) → (p.piece types).fragment = p.fragment types
  | .integer _ | .string _ | .name _ | .sign _ _ => rfl
  | .group _ inner _ => by
      rw [Part.fragment, ← inner.map_pieces types, ← Piece.fragment_ofParts]
      rfl
  | .call name _ args _ => by
      rw [Part.fragment, ← args.codes_terms types]
      rfl
  | .builtin word _ _ args _ => by
      rw [Part.fragment, ← args.codes_terms types]
      rfl

theorem Expr.map_pieces (types : TypeTable) :
    (e : Expr) → (e.pieces types).map Piece.fragment = e.fragments types
  | .nil => rfl
  | .cons head tail => by
      rw [Expr.pieces, List.map_cons, head.fragment_piece types, tail.map_pieces types,
        Expr.fragments]

theorem Args.codes_terms (types : TypeTable) {n : Nat} :
    (a : Args n) → Term.codes (a.terms types) = a.codes types
  | .none => rfl
  | .some first more => by
      rw [Args.codes, ← first.map_pieces types, ← more.codes_terms types,
        ← Piece.fragment_ofParts]
      rfl

theorem More.codes_terms (types : TypeTable) {n : Nat} :
    (m : More n) → Term.codes (m.terms types) = m.codes types
  | .nil => rfl
  | .cons _ arg rest => by
      rw [More.codes, ← arg.map_pieces types, ← rest.codes_terms types,
        ← Piece.fragment_ofParts]
      rfl

end

theorem Expr.code_term (types : TypeTable) (e : Expr) : (e.term types).code = e.code types := by
  rw [Expr.code, Expr.fragment, ← e.map_pieces types, ← Piece.fragment_ofParts]
  rfl

theorem More.length_terms (types : TypeTable) {n : Nat} (m : More n) :
    (m.terms types).length = n := by
  cases m with
  | nil => rfl
  | cons _ arg rest => rw [More.terms, List.length_cons, rest.length_terms types]

theorem Args.length_terms (types : TypeTable) {n : Nat} (a : Args n) :
    (a.terms types).length = n := by
  cases a with
  | none => rfl
  | some first more => rw [Args.terms, List.length_cons, more.length_terms types]

theorem routine_notMem_concatenations (word : Builtin) :
    word.routine ∉ Support.concatenations := by
  cases word <;> decide

/-- The numbers and names among some tokens are among the given words, and are not
empty. -/
def Words (words : List String) (ts : List Token) : Prop :=
  ∀ t ∈ ts, t.kind = .integer ∨ t.kind = .identifier → t.value ∈ words ∧ t.value ≠ ""

section

variable {words : List String} {ts us : List Token} {t : Token}

theorem Words.subset (h : Words words us) (hts : ts ⊆ us) : Words words ts :=
  fun t ht => h t (hts ht)

theorem Words.of_cons (h : Words words (t :: ts)) : Words words ts :=
  fun u hu => h u (List.mem_cons_of_mem _ hu)

theorem Words.of_append (h : Words words (ts ++ us)) : Words words ts ∧ Words words us :=
  List.forall_mem_append.1 h

mutual

/-- A part is written as something, and all calls in it fit. -/
theorem Part.whole (types : TypeTable) : (p : Part) → Words words p.yield →
    (p.piece types).Whole words
  | .integer digits, h => by
      obtain ⟨hmem, hne⟩ := h _ List.mem_cons_self (.inl rfl)
      exact ⟨hmem, hne⟩
  | .string text, _ => ⟨trivial, by simp [Part.piece, Term.code, cString]⟩
  | .name name, h => by
      obtain ⟨hmem, hne⟩ := h _ List.mem_cons_self (.inr rfl)
      exact ⟨hmem, hne⟩
  | .sign o _, _ => by
      refine ⟨trivial, ?_⟩
      show o.text ≠ ""
      cases o <;> decide
  | .group opening inner closing, h => by
      have hinner := Piece.passable_ofParts (inner.wholes types h.of_cons.of_append.1)
      exact ⟨hinner.sound, by simp [Part.piece, Term.code]⟩
  | .call name opening args closing, h => by
      have hname : name.value ∈ words := (h _ List.mem_cons_self (.inr rfl)).1
      have hargs := args.passable types h.of_cons.of_cons.of_append.1
      exact ⟨⟨hname, Term.allSound_iff.2 fun a ha => (hargs a ha).sound⟩,
        by simp [Part.piece, Term.code]⟩
  | .builtin word mark opening args closing, h => by
      have hargs := args.passable types h.of_cons.of_cons.of_append.1
      exact ⟨Term.fitting_of_passable (mem_routines_routine word)
        (routine_notMem_concatenations word) (args.length_terms types) hargs,
        by simp [Part.piece, Term.code, Routine.call]⟩

theorem Expr.wholes (types : TypeTable) : (e : Expr) → Words words e.yield →
    ∀ p ∈ e.pieces types, p.Whole words
  | .nil, _ => by simp [Expr.pieces]
  | .cons head tail, h =>
      List.forall_mem_cons.2 ⟨head.whole types h.of_append.1, tail.wholes types h.of_append.2⟩

theorem Args.passable (types : TypeTable) {n : Nat} : (a : Args n) → Words words a.yield →
    ∀ t ∈ a.terms types, t.Passable words
  | .none, _ => by simp [Args.terms]
  | .some first more, h =>
      List.forall_mem_cons.2 ⟨Piece.passable_ofParts (first.wholes types h.of_append.1),
        more.passable types h.of_append.2⟩

theorem More.passable (types : TypeTable) {n : Nat} : (m : More n) → Words words m.yield →
    ∀ t ∈ m.terms types, t.Passable words
  | .nil, _ => by simp [More.terms]
  | .cons comma arg rest, h =>
      List.forall_mem_cons.2 ⟨Piece.passable_ofParts (arg.wholes types h.of_cons.of_append.1),
        rest.passable types h.of_cons.of_append.2⟩

end

theorem Expr.passable_term (types : TypeTable) (e : Expr) (h : Words words e.yield) :
    (e.term types).Passable words :=
  Piece.passable_ofParts (e.wholes types h)

theorem Expr.term_eq_row_nil_iff (types : TypeTable) (e : Expr) (h : Words words e.yield) :
    e.term types = .row [] ↔ e = .nil := by
  constructor
  · intro hterm
    cases e with
    | nil => rfl
    | cons head tail =>
        have hwhole := Piece.whole_ofParts (List.cons_ne_nil _ _) (Expr.wholes types _ h)
        exact absurd (congrArg Term.code hterm) hwhole.code
  · rintro rfl
    rfl

end

end Tree

end StageZero
