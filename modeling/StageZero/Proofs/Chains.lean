import Mathlib.Data.List.FinRange
import StageZero.Fragment

/-!
# Chains of additions

When a text is among the parts of an expression, its operands are folded from the
left, and at each one the kinds on both sides decide whether numbers are added or
texts put together. Here the C that comes out is read as a tree: every addition is
one of two integers, every call gets what its signature asks for, and the operands
stand in the tree as they stood in the expression.

What the tree is worth does not depend on how it was found. Each step of the fold
is `Value.plus`, so a chain is worth the fold of its values: integers are added up
until the first text, and from there on everything is printed behind it.
-/

namespace StageZero

/-! ## Values -/

/-- What an operand is worth when the program runs. -/
inductive Value where
  | integer (n : Int)
  | text (s : String)
  deriving DecidableEq

namespace Value

def kind : Value → ValueKind
  | .integer _ => .integer
  | .text _ => .text

/-- A value as a text: integers are printed in decimal. -/
def shown : Value → String
  | .integer n => toString n
  | .text s => s

/-- What a value adds to a sum. -/
def number : Value → Int
  | .integer n => n
  | .text _ => 0

def total : List Value → Int
  | [] => 0
  | w :: ws => w.number + total ws

/-- Two values added: as numbers if both are, and as texts otherwise. -/
def plus : Value → Value → Value
  | .integer m, .integer n => .integer (m + n)
  | v, w => .text (v.shown ++ w.shown)

theorem foldl_plus_integer {ws : List Value} (h : ∀ w ∈ ws, w.kind = .integer) (m : Int) :
    ws.foldl plus (.integer m) = .integer (m + total ws) := by
  induction ws generalizing m with
  | nil => simp [total]
  | cons w ws ih =>
      obtain ⟨hw, hws⟩ := List.forall_mem_cons.1 h
      cases w with
      | integer n =>
          rw [List.foldl_cons, plus, ih hws, total, number]
          congr 1
          omega
      | text s => cases hw

theorem foldl_plus_text (s : String) (ws : List Value) :
    ws.foldl plus (.text s) = .text (s ++ Text.concat (ws.map shown)) := by
  induction ws generalizing s with
  | nil => simp [Text.concat]
  | cons w ws ih =>
      have hconcat : Text.concat (w.shown :: ws.map shown) =
          w.shown ++ Text.concat (ws.map shown) := String.join_cons
      rw [List.foldl_cons, plus, ih, List.map_cons, hconcat, String.append_assoc]
      · rfl
      · intro m n h
        cases h

/-- The value of a chain whose first text stands behind some integers: their sum,
if there are any, the text, and everything behind it. -/
def chained (front : List Value) (first : Value) (behind : List Value) : String :=
  (if front = [] then "" else toString (total front)) ++ first.shown ++
    Text.concat (behind.map shown)

theorem foldl_plus_eq {v first : Value} {ws front behind : List Value}
    (h : v :: ws = front ++ first :: behind) (hfront : ∀ w ∈ front, w.kind = .integer)
    (hfirst : first.kind = .text) : ws.foldl plus v = .text (chained front first behind) := by
  cases first with
  | integer n => cases hfirst
  | text s =>
      cases front with
      | nil =>
          rw [List.nil_append, List.cons.injEq] at h
          obtain ⟨rfl, rfl⟩ := h
          rw [foldl_plus_text, chained, if_pos rfl, String.empty_append]
          rfl
      | cons w front =>
          rw [List.cons_append, List.cons.injEq] at h
          obtain ⟨rfl, rfl⟩ := h
          obtain ⟨hv, hints⟩ := List.forall_mem_cons.1 hfront
          cases v with
          | text s => cases hv
          | integer m =>
              rw [List.foldl_append, foldl_plus_integer hints, List.foldl_cons, plus,
                foldl_plus_text]
              · rfl
              · intro m n _ h
                cases h

end Value

/-- The routines that put two values together. -/
def Support.concatenations : List Routine :=
  [concat, concatStrInt, concatIntStr]

/-- What the routines that put values together give. An integer is printed first,
and a routine that does not take such arguments gives nothing. -/
def Routine.joined? (r : Routine) : Value → Value → Option Value
  | .text a, .text b => if r = Support.concat then some (.text (a ++ b)) else none
  | .text a, .integer n => if r = Support.concatStrInt then some (.text (a ++ toString n)) else none
  | .integer n, .text b => if r = Support.concatIntStr then some (.text (toString n ++ b)) else none
  | .integer _, .integer _ => none

/-! ## Trees -/

/-- A tree of additions and calls that leans to the left. -/
inductive Chain (α : Type) where
  | operand (a : α)
  | sum (left : Chain α) (right : α)
  | joined (r : Routine) (left : Chain α) (right : α)

namespace Chain

variable {α : Type}

/-- The operands of a chain, from left to right. -/
def operands : Chain α → List α
  | operand a => [a]
  | sum left right => left.operands ++ [right]
  | joined _ left right => left.operands ++ [right]

/-- The C of a chain, given the fragments of its operands. -/
def code (f : α → Fragment) : Chain α → String
  | operand a => (f a).code
  | sum left right => "(" ++ left.code f ++ " + " ++ (f right).code ++ ")"
  | joined r left right => r.call [left.code f, (f right).code]

def kind (f : α → Fragment) : Chain α → ValueKind
  | operand a => (f a).kind
  | sum _ _ => .integer
  | joined r _ _ => r.kind

/-- Only integers are added, and a routine gets arguments of the kinds that it takes. -/
def Typed (f : α → Fragment) : Chain α → Prop
  | operand _ => True
  | sum left right => left.Typed f ∧ left.kind f = .integer ∧ (f right).kind = .integer
  | joined r left right =>
    left.Typed f ∧ r ∈ Support.concatenations ∧
      r.params.map (·.1.kind) = [left.kind f, (f right).kind]

/-- What a chain is worth, if it is worth anything. -/
def value? (ρ : α → Value) : Chain α → Option Value
  | operand a => some (ρ a)
  | sum left right =>
    match left.value? ρ, ρ right with
    | some (.integer m), .integer n => some (.integer (m + n))
    | _, _ => none
  | joined r left right => (left.value? ρ).bind fun v => r.joined? v (ρ right)

/-- A chain with one more operand. -/
def grow (f : α → Fragment) (t : Chain α) (a : α) : Chain α :=
  match Fragment.concatRoutine? (t.kind f) (f a).kind with
  | some r => .joined r t a
  | none => .sum t a

/-- The routines that put values together, by the kinds of their arguments. -/
theorem of_concatRoutine? {a b : ValueKind} {r : Routine}
    (h : Fragment.concatRoutine? a b = some r) :
    r ∈ Support.concatenations ∧ r.kind = .text ∧ r.params.map (·.1.kind) = [a, b] := by
  unfold Fragment.concatRoutine? at h
  split at h
  · cases h
    exact ⟨by simp [Support.concatenations], rfl, rfl⟩
  · cases h
    exact ⟨by simp [Support.concatenations], rfl, rfl⟩
  · cases h
    exact ⟨by simp [Support.concatenations], rfl, rfl⟩
  · cases h

section

variable {f : α → Fragment} {t : Chain α} {as : List α}

theorem operands_grow (a : α) : (t.grow f a).operands = t.operands ++ [a] := by
  unfold grow
  split
  · rfl
  · rfl

theorem operands_foldl : (as.foldl (grow f) t).operands = t.operands ++ as := by
  induction as generalizing t with
  | nil => rw [List.append_nil, List.foldl_nil]
  | cons a as ih => rw [List.foldl_cons, ih, operands_grow, List.append_assoc]; rfl

/-- One step of the fold of fragments is one more operand. -/
theorem add_eq_grow (a : α) :
    Fragment.add ⟨t.code f, t.kind f⟩ (f a) = ⟨(t.grow f a).code f, (t.grow f a).kind f⟩ := by
  unfold Fragment.add grow
  cases h : Fragment.concatRoutine? (t.kind f) (f a).kind with
  | none => rfl
  | some r => simp only [code, kind, (of_concatRoutine? h).2.1]

theorem foldl_add_eq :
    (as.map f).foldl Fragment.add ⟨t.code f, t.kind f⟩ =
      ⟨(as.foldl (grow f) t).code f, (as.foldl (grow f) t).kind f⟩ := by
  induction as generalizing t with
  | nil => rfl
  | cons a as ih => rw [List.map_cons, List.foldl_cons, add_eq_grow, ih]; rfl

/-- What is not put together by a routine is two integers. -/
theorem integer_of_concatRoutine? {a b : ValueKind} (ha : a ≠ .unknown) (hb : b ≠ .unknown)
    (h : Fragment.concatRoutine? a b = none) : a = .integer ∧ b = .integer := by
  cases a <;> cases b <;> simp_all [Fragment.concatRoutine?]

theorem typed_grow (hf : ∀ a, (f a).kind ≠ .unknown) (ht : t.Typed f)
    (hk : t.kind f ≠ .unknown) (a : α) :
    (t.grow f a).Typed f ∧ (t.grow f a).kind f ≠ .unknown := by
  unfold grow
  cases h : Fragment.concatRoutine? (t.kind f) (f a).kind with
  | none =>
      obtain ⟨hleft, hright⟩ := integer_of_concatRoutine? hk (hf a) h
      exact ⟨⟨ht, hleft, hright⟩, by simp [kind]⟩
  | some r =>
      obtain ⟨hmem, hkind, hparams⟩ := of_concatRoutine? h
      exact ⟨⟨ht, hmem, hparams⟩, by simp [kind, hkind]⟩

theorem typed_foldl (hf : ∀ a, (f a).kind ≠ .unknown) (ht : t.Typed f)
    (hk : t.kind f ≠ .unknown) : (as.foldl (grow f) t).Typed f := by
  induction as generalizing t with
  | nil => exact ht
  | cons a as ih =>
      obtain ⟨ht', hk'⟩ := typed_grow hf ht hk a
      exact ih ht' hk'

/-- One more operand is added to what the chain is worth. -/
theorem value?_grow {ρ : α → Value} (hρ : ∀ a, (ρ a).kind = (f a).kind) {v : Value}
    (hv : t.value? ρ = some v) (hk : v.kind = t.kind f) (a : α) :
    (t.grow f a).value? ρ = some (v.plus (ρ a)) ∧ (v.plus (ρ a)).kind = (t.grow f a).kind f := by
  unfold grow
  rw [← hk, ← hρ a]
  cases v with
  | integer m =>
      cases ha : ρ a with
      | integer n =>
          exact ⟨by simp [Value.kind, Fragment.concatRoutine?, value?, hv, ha, Value.plus], rfl⟩
      | text b =>
          exact ⟨by simp [Value.kind, Fragment.concatRoutine?, value?, hv, ha, Routine.joined?,
            Value.plus, Value.shown], rfl⟩
  | text b =>
      cases ha : ρ a with
      | integer n =>
          exact ⟨by simp [Value.kind, Fragment.concatRoutine?, value?, hv, ha, Routine.joined?,
            Value.plus, Value.shown], rfl⟩
      | text c =>
          exact ⟨by simp [Value.kind, Fragment.concatRoutine?, value?, hv, ha, Routine.joined?,
            Value.plus, Value.shown], rfl⟩

theorem value?_foldl {ρ : α → Value} (hρ : ∀ a, (ρ a).kind = (f a).kind) {v : Value}
    (hv : t.value? ρ = some v) (hk : v.kind = t.kind f) :
    (as.foldl (grow f) t).value? ρ = some ((as.map ρ).foldl Value.plus v) := by
  induction as generalizing t v with
  | nil => exact hv
  | cons a as ih =>
      obtain ⟨hv', hk'⟩ := value?_grow hρ hv hk a
      exact ih hv' hk'

end

end Chain

/-! ## Operands -/

namespace Fragment

/-- Parts cut into runs at the plus signs. -/
structure Runs (parts : List Fragment) (runs : List (List Fragment)) : Prop where
  written : [sign .plus].intercalate runs = parts
  free : ∀ run ∈ runs, ∀ part ∈ run, part.isPlus = false

/-- The operands that runs make. A run without parts makes none. -/
def joinRuns (runs : List (List Fragment)) : List Fragment :=
  (runs.filter fun run => !run.isEmpty).map join

theorem eq_sign_of_isPlus {part : Fragment} (h : part.isPlus = true) : part = sign .plus := by
  obtain ⟨code, kind⟩ := part
  simp only [isPlus, Bool.and_eq_true, beq_iff_eq] at h
  obtain ⟨rfl, rfl⟩ := h
  rfl

theorem isPlus_of_isText {part : Fragment} (h : part.kind = .text) : part.isPlus = false := by
  simp [isPlus, h]

theorem splitAtPlus_ne_nil (parts : List Fragment) : splitAtPlus parts ≠ [] := by
  fun_induction splitAtPlus parts <;> simp

theorem runs_splitAtPlus (parts : List Fragment) : Runs parts (splitAtPlus parts) := by
  fun_induction splitAtPlus parts with
  | case1 => exact ⟨by simp, by simp⟩
  | case2 part rest hplus ih =>
      obtain ⟨run, runs, hruns⟩ := List.exists_cons_of_ne_nil (splitAtPlus_ne_nil rest)
      rw [hruns] at ih ⊢
      refine ⟨?_, List.forall_mem_cons.2 ⟨by simp, ih.free⟩⟩
      rw [List.intercalate_cons_cons, ih.written, eq_sign_of_isPlus hplus]
      rfl
  | case3 part rest hplus hnil => exact absurd hnil (splitAtPlus_ne_nil rest)
  | case4 part rest hplus run runs hruns ih =>
      rw [hruns] at ih
      obtain ⟨hwritten, hfree⟩ := ih
      obtain ⟨hrun, hfree⟩ := List.forall_mem_cons.1 hfree
      refine ⟨?_, List.forall_mem_cons.2 ⟨List.forall_mem_cons.2 ⟨by simpa using hplus, hrun⟩,
        hfree⟩⟩
      rw [← hwritten]
      cases runs with
      | nil => simp
      | cons next runs => simp [List.intercalate_cons_cons]

theorem kind_join (run : List Fragment) : (join run).kind ≠ .unknown := by
  unfold join
  split <;> simp

theorem exists_mem_splitAtPlus {parts : List Fragment} {part : Fragment} (h : part ∈ parts)
    (hplus : part.isPlus = false) : ∃ run ∈ splitAtPlus parts, part ∈ run := by
  fun_induction splitAtPlus parts with
  | case1 => cases h
  | case2 sign rest hsign ih =>
      rcases List.mem_cons.1 h with rfl | h
      · rw [hplus] at hsign
        cases hsign
      · obtain ⟨run, hrun, hmem⟩ := ih h
        exact ⟨run, List.mem_cons_of_mem _ hrun, hmem⟩
  | case3 p rest _ hnil => exact absurd hnil (splitAtPlus_ne_nil rest)
  | case4 p rest _ first runs hruns ih =>
      rcases List.mem_cons.1 h with rfl | h
      · exact ⟨_, List.mem_cons_self, List.mem_cons_self⟩
      · obtain ⟨run, hrun, hmem⟩ := ih h
        rw [hruns] at hrun
        rcases List.mem_cons.1 hrun with rfl | hrun
        · exact ⟨_, List.mem_cons_self, List.mem_cons_of_mem _ hmem⟩
        · exact ⟨run, List.mem_cons_of_mem _ hrun, hmem⟩

/-- A text among the parts is a text among the operands. -/
theorem exists_text_operand {parts : List Fragment} (h : ∃ part ∈ parts, part.kind = .text) :
    ∃ operand ∈ operands parts, operand.kind = .text := by
  obtain ⟨part, hpart, hkind⟩ := h
  obtain ⟨run, hrun, hmem⟩ := exists_mem_splitAtPlus hpart (isPlus_of_isText hkind)
  have hne : (!run.isEmpty) = true := by
    rw [List.isEmpty_eq_false_iff_exists_mem.2 ⟨part, hmem⟩]
    rfl
  have hany : run.any isText = true := List.any_eq_true.2 ⟨part, hmem, by simp [isText, hkind]⟩
  exact ⟨join run, List.mem_map_of_mem (List.mem_filter.2 ⟨hrun, hne⟩), by simp [join, hany]⟩

/-- A chain of operands with a text among them is folded from the first. -/
theorem concatenate_eq {parts rest : List Fragment} {first : Fragment}
    (h : operands parts = first :: rest) (htext : ∃ f ∈ first :: rest, f.kind = .text) :
    concatenate parts = ⟨(rest.foldl add first).code, .text⟩ := by
  unfold concatenate
  rw [h]
  cases rest with
  | nil =>
      obtain ⟨f, hf, hkind⟩ := htext
      obtain rfl := List.mem_singleton.1 hf
      show f = ⟨f.code, .text⟩
      rw [← hkind]
  | cons next rest => rfl

end Fragment

/-- The first text among some operands, with the integers in front of it. -/
structure FirstText (os : List Fragment) (front : List (Fin os.length)) (first : Fin os.length)
    (behind : List (Fin os.length)) : Prop where
  split : List.finRange os.length = front ++ first :: behind
  integers : ∀ i ∈ front, (os.get i).kind = .integer
  text : (os.get first).kind = .text

theorem exists_firstText {os : List Fragment} (hvalues : ∀ o ∈ os, o.kind ≠ .unknown)
    (h : ∃ o ∈ os, o.kind = .text) : ∃ front first behind, FirstText os front first behind := by
  obtain ⟨o, ho, hkind⟩ := h
  obtain ⟨i, rfl⟩ := List.get_of_mem ho
  obtain ⟨first, hfirst⟩ := Option.isSome_iff_exists.1 <| List.find?_isSome
    (p := fun i => decide ((os.get i).kind = .text)).2 ⟨i, List.mem_finRange i, by simpa using hkind⟩
  obtain ⟨htext, front, behind, hsplit, hfront⟩ := List.find?_eq_some_iff_append.1 hfirst
  refine ⟨front, first, behind, hsplit, fun j hj => ?_, of_decide_eq_true htext⟩
  have hne : (os.get j).kind ≠ .text := by simpa using hfront j hj
  have hvalue := hvalues _ (os.get_mem j)
  cases hk : (os.get j).kind with
  | integer => rfl
  | text => exact absurd hk hne
  | unknown => exact absurd hk hvalue

/-- Parts with a text among them, cut into runs at the plus signs, are put together
as a chain over the operands that the runs make. The chain is a text and each of its
steps fits the kinds on both sides. Whatever the operands are worth, it is worth the
sum of the integers before the first text, if there are any, followed by everything
from that text on. -/
theorem chains_evaluate_left_to_right (parts : List Fragment)
    (h : ∃ part ∈ parts, part.kind = .text) :
    ∃ runs, Fragment.Runs parts runs ∧ ∃ os, os = Fragment.joinRuns runs ∧
      ∃ (t : Chain (Fin os.length)) (front : List (Fin os.length)) (first : Fin os.length)
        (behind : List (Fin os.length)), FirstText os front first behind ∧
        t.operands = List.finRange os.length ∧ t.Typed os.get ∧
        Fragment.concatenate parts = ⟨t.code os.get, .text⟩ ∧
        ∀ ρ : Fin os.length → Value, (∀ i, (ρ i).kind = (os.get i).kind) →
          t.value? ρ =
            some (.text (Value.chained (front.map ρ) (ρ first) (behind.map ρ))) := by
  refine ⟨_, Fragment.runs_splitAtPlus parts, Fragment.operands parts, rfl, ?_⟩
  have htext := Fragment.exists_text_operand h
  have hvalues : ∀ o ∈ Fragment.operands parts, o.kind ≠ .unknown := by
    intro o ho
    obtain ⟨run, -, rfl⟩ := List.mem_map.1 ho
    exact Fragment.kind_join run
  have hconcat := @Fragment.concatenate_eq parts
  generalize Fragment.operands parts = os at htext hvalues hconcat ⊢
  obtain ⟨front, first, behind, hfirst⟩ := exists_firstText hvalues htext
  have hf : ∀ i, (os.get i).kind ≠ .unknown := fun i => hvalues _ (os.get_mem i)
  -- the chain begins at the first operand, text or not
  obtain ⟨i, is, his⟩ : ∃ i is, List.finRange os.length = i :: is := by
    rw [hfirst.split]
    exact List.exists_cons_of_ne_nil (by simp)
  have hos : os = os.get i :: is.map os.get := by
    rw [← List.map_cons, ← his, List.map_get_finRange]
  refine ⟨is.foldl (Chain.grow os.get) (.operand i), front, first, behind, hfirst, ?_,
    Chain.typed_foldl hf trivial (hf i), ?_, ?_⟩
  · rw [Chain.operands_foldl, his]
    rfl
  · rw [hconcat hos (by rwa [← hos])]
    exact congrArg (fun f : Fragment => (⟨f.code, .text⟩ : Fragment))
      (Chain.foldl_add_eq (t := .operand i))
  · intro ρ hρ
    have hworth : ρ i :: is.map ρ = front.map ρ ++ ρ first :: behind.map ρ := by
      rw [← List.map_cons, ← his, hfirst.split, List.map_append, List.map_cons]
    have hintegers : ∀ w ∈ front.map ρ, w.kind = .integer := by
      intro w hw
      obtain ⟨j, hj, rfl⟩ := List.mem_map.1 hw
      exact (hρ j).trans (hfirst.integers j hj)
    rw [Chain.value?_foldl (f := os.get) hρ rfl (hρ i),
      Value.foldl_plus_eq hworth hintegers ((hρ first).trans hfirst.text)]

/-- Two integers, a text, a sign too many and a product. -/
def mixedParts : List Fragment :=
  [⟨"1", .integer⟩, .sign .plus, ⟨"n", .integer⟩, .sign .plus, .literal "a", .sign .plus,
    .sign .plus, ⟨"f(2)", .integer⟩, .sign .star, ⟨"3", .integer⟩]

theorem chains_evaluate_left_to_right_mixed :
    (∃ part ∈ mixedParts, part.kind = .text) ∧
      (Fragment.concatenate mixedParts).code =
        "__wear_concat_str_int(__wear_concat_int_str((1 + n), \"a\"), f(2) * 3)" ∧
      ∃ runs, Fragment.Runs mixedParts runs ∧ ∃ os, os = Fragment.joinRuns runs ∧
        ∃ (t : Chain (Fin os.length)) (front : List (Fin os.length)) (first : Fin os.length)
          (behind : List (Fin os.length)), FirstText os front first behind ∧
          t.operands = List.finRange os.length ∧ t.Typed os.get ∧
          Fragment.concatenate mixedParts = ⟨t.code os.get, .text⟩ ∧
          ∀ ρ : Fin os.length → Value, (∀ i, (ρ i).kind = (os.get i).kind) →
            t.value? ρ =
              some (.text (Value.chained (front.map ρ) (ρ first) (behind.map ρ))) := by
  have htext : ∃ part ∈ mixedParts, part.kind = .text := ⟨.literal "a", by decide, rfl⟩
  exact ⟨htext, by decide +kernel, chains_evaluate_left_to_right mixedParts htext⟩

end StageZero
