import StageZero.Generator.Statement
import StageZero.Proofs.Tree

/-!
# What a tree means

The C of a tree, by recursion on the tree. An expression has a fragment under
the types declared so far. A statement has an emission: the lines it adds to
the body it stands in, the functions it finishes, the names of the functions it
begins, the variables it declares, and the remarks it is due. Emissions are
put one after the other, and nothing is ever taken back.

Two things are handed down and not written: the depth at which a line is
indented, and the types that hold before a statement. A function's body starts
again at depth one and its lines do not go to the body around it, but the
variables it declares stay declared.
-/

namespace StageZero

/-- Declarations made one after the other. -/
def TypeTable.declareAll (t : TypeTable) (ds : List (String × ValueKind)) : TypeTable :=
  ds.foldl (fun t d => t.declare d.1 d.2) t

@[simp] theorem TypeTable.declareAll_nil (t : TypeTable) : t.declareAll [] = t := rfl

theorem TypeTable.declareAll_append (t : TypeTable) (a b : List (String × ValueKind)) :
    t.declareAll (a ++ b) = (t.declareAll a).declareAll b :=
  List.foldl_append

namespace Tree

/-! ## Fragments -/

mutual

/-- The fragment of a part. -/
def Part.fragment (types : TypeTable) : Part → Fragment
  | .integer digits => ⟨digits.value, .integer⟩
  | .string text => .literal text.value
  | .name name => ⟨name.value, types.lookup name.value⟩
  | .sign o _ => .sign o
  | .group _ inner _ =>
    let e := Fragment.ofParts (inner.fragments types)
    ⟨"(" ++ e.code ++ ")", e.kind⟩
  | .call name _ args _ =>
    ⟨name.value ++ "(" ++ Text.joinWith ", " (args.codes types) ++ ")", .integer⟩
  | .builtin word _ _ args _ => .call word.routine (args.codes types)

/-- The fragments of an expression's parts. -/
def Expr.fragments (types : TypeTable) : Expr → List Fragment
  | .nil => []
  | .cons head tail => head.fragment types :: tail.fragments types

/-- The C of arguments. -/
def Args.codes (types : TypeTable) {n : Nat} : Args n → List String
  | .none => []
  | .some first more => (Fragment.ofParts (first.fragments types)).code :: more.codes types

def More.codes (types : TypeTable) {n : Nat} : More n → List String
  | .nil => []
  | .cons _ arg rest => (Fragment.ofParts (arg.fragments types)).code :: rest.codes types

end

/-- The fragment of an expression. -/
def Expr.fragment (types : TypeTable) (e : Expr) : Fragment :=
  Fragment.ofParts (e.fragments types)

def Expr.code (types : TypeTable) (e : Expr) : String :=
  (e.fragment types).code

/-! ## Emissions -/

/-- What statements write. -/
structure Emission where
  /-- Lines for the body the statements stand in. -/
  lines : List String := []
  /-- Functions, in the order in which they end. -/
  functions : List String := []
  /-- Names of functions, in the order in which they begin. -/
  names : List String := []
  /-- Variables with their kinds, in the order of their declarations. -/
  declared : List (String × ValueKind) := []
  /-- What is worth a warning, with the token that is to blame. -/
  remarks : List (Remark × Token) := []

namespace Emission

/-- One emission after the other. -/
def append (a b : Emission) : Emission where
  lines := a.lines ++ b.lines
  functions := a.functions ++ b.functions
  names := a.names ++ b.names
  declared := a.declared ++ b.declared
  remarks := a.remarks ++ b.remarks

instance : Append Emission := ⟨append⟩

theorem append_def (a b : Emission) : a ++ b = append a b := rfl

def empty : Emission := {}

@[simp] theorem append_empty (a : Emission) : a ++ empty = a := by
  simp [append_def, append, empty]

@[simp] theorem empty_append (a : Emission) : empty ++ a = a := by
  simp [append_def, append, empty]

theorem append_assoc (a b c : Emission) : a ++ b ++ c = a ++ (b ++ c) := by
  simp [append_def, append]

@[simp] theorem declared_append (a b : Emission) :
    (a ++ b).declared = a.declared ++ b.declared := rfl

/-- One line of C at a depth. -/
def line (indent : Nat) (code : String) : Emission :=
  { lines := [BodyLine.margin indent ++ code ++ "\n"] }

@[simp] theorem declared_line (indent : Nat) (code : String) :
    (line indent code).declared = [] := rfl

/-- A remark and nothing else. -/
def remark (r : Remark) (tok : Token) : Emission :=
  { remarks := [(r, tok)] }

/-- A C construct around what a block writes. -/
def enclosed (indent : Nat) (head : String) (body : Emission) : Emission :=
  line indent (head ++ " \x7b") ++ body ++ line indent "\x7d"

/-- A function around what its block writes. Its lines are its own; the rest
goes on. -/
def function (name : String) (params : List String) (body : Emission) : Emission where
  functions :=
    body.functions ++
      [Text.concat ((Gen.functionHeader name params ++ " \x7b\n") :: (body.lines ++ ["\x7d\n\n"]))]
  names := name :: body.names
  declared := body.declared
  remarks := body.remarks

end Emission

/-- The head of a construct with a condition. -/
def Test.head (types : TypeTable) (word : String) (t : Test) : String :=
  word ++ " (" ++ t.value.code types ++ ")"

mutual

/-- What a statement writes at a depth, under the types that hold before it. -/
def Stmt.emission (types : TypeTable) (indent : Nat) : Stmt → Emission
  | .declare _ name _ value =>
    let kind := Gen.variableKind (value.fragment types)
    { lines :=
        (Emission.line indent
          (Gen.variableType kind ++ " " ++ name.value ++ " = " ++ value.code types ++ ";")).lines
      declared := [(name.value, kind)] }
  | .print _ value =>
    .line indent ((Gen.printRoutine (value.fragment types).kind).call [value.code types] ++ ";")
  | .loop _ test body =>
    .enclosed indent (test.head types "while") (body.emission types (indent + 1))
  | .branch _ test body links other =>
    let first := Emission.enclosed indent (test.head types "if") (body.emission types (indent + 1))
    let types₁ := types.declareAll first.declared
    let second := links.emission types₁ indent
    first ++ second ++ other.emission (types₁.declareAll second.declared) indent
  | .function _ name _ params _ body =>
    .function name.value params.names (body.emission types 1)
  | .give _ value =>
    if value.code types = "" then .line indent "return;"
    else .line indent ("return " ++ value.code types ++ ";")
  | .writeFile _ _ name _ content _ =>
    .line indent (Support.writeFile.call [name.code types, content.code types] ++ ";")
  | .readFile _ _ name _ => .line indent (Support.readFile.call [name.code types] ++ ";")
  | .assign name _ value => .line indent (name.value ++ " = " ++ value.code types ++ ";")
  | .call name _ args _ =>
    .line indent (name.value ++ "(" ++ Text.joinWith ", " (args.codes types) ++ ");")
  | .idle name => .remark .idleName (name.as .identifier)
  | .skipped tok _ => if tok.kind = .unknown then .remark .illegalCharacter tok else .empty

/-- What a block writes, at the depth of its statements. -/
def Block.emission (types : TypeTable) (indent : Nat) : Block → Emission
  | .mk _ items _ => items.emission types indent

def Items.emission (types : TypeTable) (indent : Nat) : Items → Emission
  | .nil => .empty
  | .line _ rest => rest.emission types indent
  | .stmt s rest =>
    let e := s.emission types indent
    e ++ rest.emission (types.declareAll e.declared) indent

def Links.emission (types : TypeTable) (indent : Nat) : Links → Emission
  | .nil => .empty
  | .cons _ _ _ test body rest =>
    let e := Emission.enclosed indent (test.head types "else if") (body.emission types (indent + 1))
    e ++ rest.emission (types.declareAll e.declared) indent

def Other.emission (types : TypeTable) (indent : Nat) : Other → Emission
  | .none => .empty
  | .some _ _ body => .enclosed indent "else" (body.emission types (indent + 1))

end

def Top.emission (types : TypeTable) : Top → Emission
  | .line _ => .empty
  | .stray mark => .remark .strayBrace (mark.as .rbrace)
  | .stmt s => s.emission types 1

def emission (types : TypeTable) : Program → Emission
  | [] => .empty
  | t :: p =>
    let e := t.emission types
    e ++ emission (types.declareAll e.declared) p

end Tree

/-! ## Emissions and states -/

/-- The output with an emission put behind it: lines go to the innermost body
that is open. -/
def Output.extend (o : Output) (e : Tree.Emission) : Output :=
  let grown := { o with
    functions := o.functions ++ e.functions.toArray
    names := o.names ++ e.names.toArray }
  match o.bodies with
  | [] => { grown with main := o.main ++ e.lines.toArray }
  | body :: rest => { grown with bodies := (body ++ e.lines.toArray) :: rest }

/-- The report with the warnings for some remarks. -/
def Report.remarkAll (r : Report) (remarks : List (Remark × Token)) : Report :=
  { r with
    warnings := r.warnings ++
      (remarks.map fun m => r.diagnose m.1.code m.1.message m.2).toArray }

/-- A state with its cursor at another place. -/
def State.move (s : State) (c : Cursor) : State :=
  { s with cursor := c }

/-- The state after an emission, at another place in the token list. -/
def State.after (s : State) (e : Tree.Emission) (c : Cursor) : State :=
  { s with
    cursor := c
    report := s.report.remarkAll e.remarks
    types := s.types.declareAll e.declared
    output := s.output.extend e }

/-- A state that writes at another depth. -/
def State.indented (s : State) (indent : Nat) : State :=
  { s with output := { s.output with indent := indent } }

namespace Output

open StageZero.Tree (Emission)

@[simp] theorem indent_extend (o : Output) (e : Emission) : (o.extend e).indent = o.indent := by
  unfold extend
  split <;> rfl

theorem extend_empty (o : Output) : o.extend .empty = o := by
  cases o with
  | mk main bodies functions names indent => cases bodies <;> simp [extend, Emission.empty]

theorem extend_extend (o : Output) (e f : Emission) :
    (o.extend e).extend f = o.extend (e ++ f) := by
  cases o with
  | mk main bodies functions names indent =>
      cases bodies <;> simp [extend, Emission.append_def, Emission.append, Array.append_assoc]

theorem extend_indent (o : Output) (e : Emission) (n : Nat) :
    ({ o with indent := n } : Output).extend e = { o.extend e with indent := n } := by
  cases o with
  | mk main bodies functions names indent => cases bodies <;> rfl

theorem emit_eq_extend (o : Output) (code : String) :
    o.emit code = o.extend (.line o.indent code) := by
  cases o with
  | mk main bodies functions names indent =>
      cases bodies <;> simp [extend, emit, line, Emission.line]

theorem extend_remark (o : Output) (r : Remark) (tok : Token) :
    o.extend (.remark r tok) = o := by
  cases o with
  | mk main bodies functions names indent => cases bodies <;> simp [extend, Emission.remark]

/-- A function body is opened, written and closed: from outside this is one
emission. -/
theorem closeFunction_extend (o : Output) (name : String) (params : List String) (e : Emission) :
    ((({ o with names := o.names.push name } : Output).openFunction
      (Gen.functionHeader name params)).extend e).closeFunction o.indent =
        o.extend (.function name params e) := by
  cases o with
  | mk main bodies functions names indent =>
      cases bodies <;> simp [extend, openFunction, closeFunction, Emission.function]

end Output

namespace Report

theorem remarkAll_nil (r : Report) : r.remarkAll [] = r := by
  simp [remarkAll]

theorem remarkAll_singleton (r : Report) (m : Remark) (tok : Token) :
    r.remarkAll [(m, tok)] = r.addWarning (r.diagnose m.code m.message tok) := by
  simp [remarkAll, addWarning]

theorem remarkAll_append (r : Report) (a b : List (Remark × Token)) :
    r.remarkAll (a ++ b) = (r.remarkAll a).remarkAll b := by
  simp [remarkAll, diagnose, context, Array.append_assoc]

end Report

namespace State

open StageZero.Tree (Emission)

variable (s : State) (e f : Emission) (c c' : Cursor)

@[simp] theorem cursor_move : (s.move c).cursor = c := rfl

@[simp] theorem types_move : (s.move c).types = s.types := rfl

@[simp] theorem output_move : (s.move c).output = s.output := rfl

@[simp] theorem cursor_after : (s.after e c).cursor = c := rfl

@[simp] theorem types_after : (s.after e c).types = s.types.declareAll e.declared := rfl

@[simp] theorem indent_after : (s.after e c).output.indent = s.output.indent :=
  Output.indent_extend s.output e

@[simp] theorem move_after : (s.move c).after e c' = s.after e c' := rfl

@[simp] theorem after_move : (s.after e c).move c' = s.after e c' := rfl

theorem after_empty : s.after .empty c = s.move c := by
  have ho := s.output.extend_empty
  have hr : s.report.remarkAll [] = s.report := s.report.remarkAll_nil
  simp only [after, Emission.empty] at ho ⊢
  rw [hr, ho]
  rfl

theorem after_after : (s.after e c).after f c' = s.after (e ++ f) c' := by
  have ho := s.output.extend_extend e f
  have hr : s.report.remarkAll (e.remarks ++ f.remarks) = _ := s.report.remarkAll_append _ _
  have ht : s.types.declareAll (e.declared ++ f.declared) = _ := s.types.declareAll_append _ _
  show State.mk _ _ _ = State.mk _ _ _
  congr 1
  · show Reading.mk _ _ _ _ = Reading.mk _ _ _ _
    congr 1
    exact hr.symm
  · exact ht.symm

/-- An emission that only writes. -/
theorem after_lines (lines : List String) :
    s.after { lines := lines } s.cursor = { s with output := s.output.extend { lines := lines } } := by
  have hr : s.report.remarkAll [] = s.report := s.report.remarkAll_nil
  simp only [after, hr]
  rfl

/-- An emission that only warns. -/
theorem after_remark (m : Remark) (tok : Token) :
    s.after (.remark m tok) s.cursor =
      { s with report := s.report.addWarning (s.report.diagnose m.code m.message tok) } := by
  rw [← s.report.remarkAll_singleton]
  show State.mk _ _ _ = State.mk _ _ _
  congr 1
  exact s.output.extend_remark m tok

/-- The depth of lines and what is written do not interfere. -/
theorem after_indented (n : Nat) : (s.indented n).after e c = (s.after e c).indented n := by
  show State.mk _ _ _ = State.mk _ _ _
  congr 1
  exact s.output.extend_indent e n

@[simp] theorem indented_indented (m n : Nat) : (s.indented m).indented n = s.indented n := rfl

theorem indented_self : s.indented s.output.indent = s := rfl

@[simp] theorem indent_indented (n : Nat) : (s.indented n).output.indent = n := rfl

/-- What is written one level deeper is written all the same. -/
theorem indented_after_indented (n : Nat) :
    ((s.indented n).after e c).indented s.output.indent = s.after e c := by
  rw [after_indented, indented_indented, ← s.indent_after e c, indented_self]

end State

end StageZero
