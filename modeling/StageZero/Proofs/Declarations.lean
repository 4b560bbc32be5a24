import Mathlib.Data.List.Induction
import StageZero.Proofs.Listing

/-!
# What the type table records

There is one table for a whole program, and blocks, functions and the main body write
into it as they come. What it holds at the end, and what it held at every step on the
way, is said by the declarations among the steps and by nothing else: no assignment, no
parameter, no reference and no call has a part in it. A name has the kind of the value of
its last declaration, under the types that were known before it, and a name that is not
declared yet holds an integer.

A table is the fold of its declarations, so this is a matter of two facts on that fold,
one for the names and one for the look-up. The listing of a program knows the rest.
-/

namespace StageZero

namespace TypeTable

theorem lookup_cons_eq (d : String × ValueKind) (ds : List (String × ValueKind)) (x : String) :
    (d :: ds).lookup x = if x = d.1 then some d.2 else ds.lookup x := by
  obtain ⟨name, kind⟩ := d
  by_cases hx : x = name
  · rw [hx, List.lookup_cons_self, if_pos rfl]
  · rw [List.lookup_cons, beq_false_of_ne hx, if_neg hx]

theorem lookup_set (name x : String) (kind : ValueKind) (entries : List (String × ValueKind)) :
    (set name kind entries).lookup x = if x = name then some kind else entries.lookup x := by
  induction entries with
  | nil => exact lookup_cons_eq (name, kind) [] x
  | cons entry entries ih =>
      by_cases hname : entry.1 = name
      · rw [set, if_pos hname, lookup_cons_eq, lookup_cons_eq, hname]
        split <;> rfl
      · rw [set, if_neg hname, lookup_cons_eq, lookup_cons_eq, ih]
        by_cases hx : x = name
        · rw [if_neg fun h => hname (h.symm.trans hx), if_pos hx, if_pos hx]
        · rw [if_neg hx, if_neg hx]

theorem lookup_entries_declareAll (t : TypeTable) (ds : List (String × ValueKind)) (x : String) :
    (t.declareAll ds).entries.lookup x = (ds.reverse.lookup x).or (t.entries.lookup x) := by
  induction ds generalizing t with
  | nil => rfl
  | cons d ds ih =>
      show ((t.declare d.1 d.2).declareAll ds).entries.lookup x = _
      rw [ih, List.reverse_cons, List.lookup_append, lookup_cons_eq, declare, lookup_set,
        Option.or_assoc]
      congr 1
      split <;> rfl

theorem names_set_eq (name : String) (kind : ValueKind) (entries : List (String × ValueKind)) :
    (set name kind entries).map (·.1) =
      if name ∈ entries.map (·.1) then entries.map (·.1) else entries.map (·.1) ++ [name] := by
  induction entries with
  | nil => rfl
  | cons entry entries ih =>
      by_cases hname : entry.1 = name
      · simp [set, hname]
      · rw [set, if_neg hname, List.map_cons, ih]
        by_cases hmem : name ∈ entries.map (·.1)
        · simp [hmem]
        · have hnot : name ∉ (entry :: entries).map (·.1) := by
            rw [List.map_cons, List.mem_cons, not_or]
            exact ⟨fun h => hname h.symm, hmem⟩
          rw [if_neg hmem, if_neg hnot]
          rfl

/-- Names stand where they were declared first. -/
theorem names_declareAll_empty (ds : List (String × ValueKind)) :
    (declareAll {} ds).names = (ds.map (·.1)).eraseDups := by
  induction ds using List.reverseRecOn with
  | nil => rfl
  | append_singleton ds d ih =>
      have hnew : ([d.1].removeAll (ds.map (·.1))).eraseDups =
          if d.1 ∈ ds.map (·.1) then [] else [d.1] := by
        by_cases hmem : d.1 ∈ ds.map (·.1) <;> simp [List.removeAll, hmem, List.eraseDups_cons]
      rw [List.map_append, List.eraseDups_append, List.map_singleton, hnew, declareAll_append]
      show (set d.1 d.2 (declareAll {} ds).entries).map (·.1) = _
      rw [names_set_eq]
      change (if d.1 ∈ (declareAll {} ds).names then (declareAll {} ds).names else _) = _
      rw [ih]
      by_cases hmem : d.1 ∈ ds.map (·.1)
      · rw [if_pos (List.mem_eraseDups.2 hmem), if_pos hmem, List.append_nil]
      · rw [if_neg fun h => hmem (List.mem_eraseDups.1 h), if_neg hmem]
        exact congrArg (· ++ [d.1]) ih

end TypeTable

namespace Tree

/-- The kind that the last declaration of a name has given it, which is that of an
integer if there is none. -/
def lastKind (es : List Entry) (x : String) : ValueKind :=
  ((declarations es).reverse.lookup x).getD .integer

theorem lookup_declareAll_declarations (es : List Entry) (x : String) :
    (TypeTable.declareAll {} (declarations es)).lookup x = lastKind es x := by
  rw [TypeTable.lookup, TypeTable.lookup_entries_declareAll, lastKind]
  show ((List.lookup x (declarations es).reverse).or none).getD .integer = _
  rw [Option.or_none]

theorem kind_of_mem_declarations {es : List Entry} {d : String × ValueKind}
    (h : d ∈ declarations es) : d.2 = .text ∨ d.2 = .integer := by
  obtain ⟨⟨name, kind⟩, hd, rfl⟩ := List.mem_map.1 h
  obtain ⟨⟨types, indent, step⟩, -, hmem⟩ := List.mem_flatMap.1 hd
  unfold Entry.declared at hmem
  split at hmem
  · next value _ _ =>
      cases List.mem_singleton.1 hmem
      have hkind := value.kind_fragment_ne types
      show (value.fragment types).kind = .text ∨ (value.fragment types).kind = .integer
      cases h : (value.fragment types).kind <;> simp_all
  · cases hmem

theorem lastKind_cases (es : List Entry) (x : String) :
    lastKind es x = .text ∨ lastKind es x = .integer := by
  unfold lastKind
  cases hlookup : (declarations es).reverse.lookup x with
  | none => exact .inr rfl
  | some kind =>
      obtain ⟨before, after, heq, -⟩ := List.lookup_eq_some_iff.1 hlookup
      have hmem : (x, kind) ∈ declarations es := by
        rw [← List.mem_reverse, heq]
        exact List.mem_append_right _ List.mem_cons_self
      exact kind_of_mem_declarations hmem

/-- The line of a declaration begins with the C type of its kind. -/
theorem Entry.lines_declare {e : Entry} {word name equal : Mark} {value : Expr}
    {hs : Stmt.isSimple (.declare word name equal value) = true}
    (h : e.step = .simple (.declare word name equal value) hs) :
    e.lines = [BodyLine.margin e.indent ++
      ((if (value.fragment e.types).kind = .text then "char* " else "int ") ++ name.value ++
        " = " ++ value.code e.types ++ ";") ++ "\n"] := by
  obtain ⟨types, indent, step⟩ := e
  cases h
  have htype : ∀ kind, Gen.variableType kind ++ " " = if kind = .text then "char* " else "int " := by
    intro kind
    unfold Gen.variableType
    split <;> rfl
  show [BodyLine.margin indent ++ (Gen.variableType (Gen.variableKind (value.fragment types)) ++
    " " ++ name.value ++ " = " ++ value.code types ++ ";") ++ "\n"] = _
  rw [variableKind_fragment, htype]

/-- What a type table and an output have from the steps of a program. -/
structure Listing.Records (l : Listing) (tokens : List Token) (s : State) : Prop where
  main : s.output.main.toList = l.outline.direct
  functions : s.output.functions.toList = l.outline.postorder.map Body.text
  order : (l.entries.flatMap Entry.tokens).Sublist (beforeEnd tokens)
  types : s.types = TypeTable.declareAll {} (declarations l.entries)
  /-- The declarations are those that the words for variables introduce. -/
  words : followers (.keyword .varK) (beforeEnd tokens) =
    (l.entries.flatMap Entry.declared).map fun d => some (d.1.as .identifier)
  names : s.types.names =
    ((followers (.keyword .varK) (beforeEnd tokens)).filterMap (·.map (·.value))).eraseDups
  lookup : ∀ x, s.types.lookup x = lastKind l.entries x
  kinds : ∀ x, s.types.lookup x = .text ∨ s.types.lookup x = .integer
  line : ∀ e ∈ l.entries, ∀ word name equal value hs,
    e.step = .simple (.declare word name equal value) hs →
    ∃ line, e.lines = [line] ∧
      (line ∈ s.output.main.toList ∨ ∃ b ∈ l.outline.postorder, line ∈ b.lines) ∧
      line = BodyLine.margin e.indent ++
        ((if (value.fragment e.types).kind = .text then "char* " else "int ") ++ name.value ++
          " = " ++ value.code e.types ++ ";") ++ "\n"
  /-- A name means at a step what the declarations before it have made of it. -/
  reference : ∀ before e after, l.entries = before ++ e :: after →
    e.types = TypeTable.declareAll {} (declarations before) ∧
      ∀ x : Mark, (Part.name x).fragment e.types = ⟨x.value, lastKind before x.value⟩

end Tree

open StageZero.Tree

/-- The table of a run that succeeds records its declarations and nothing else. Its names
are those behind the words for variables, each where it came first, and a name has the
kind of the value of its last declaration. At every step on the way the same holds of the
declarations before the step, and what is written there is written under these kinds. -/
theorem table_records_declarations {depth : Nat} {tokens : List Token} {report : Report}
    {debug : Bool} {s : State} (h : Gen.run depth (.ofTokens tokens report debug) = .ok () s) :
    ∃ (p : Program) (l : Listing), yield p = beforeEnd tokens ∧ Fits [] p ∧
      l = Tree.listing {} p ∧ l.Records tokens s := by
  obtain ⟨p, c, hp, hw⟩ := Gen.of_run_ofTokens h
  have hl := listed {} p
  rw [hp.yield_eq] at hl
  have htypes : s.types = TypeTable.declareAll {} (declarations (Tree.listing {} p).entries) :=
    hl.declared ▸ hw.types
  have hwords : followers (.keyword .varK) (beforeEnd tokens) =
      ((Tree.listing {} p).entries.flatMap Entry.declared).map
        fun d => some (d.1.as .identifier) := by
    have hnames := hl.names []
    rwa [List.append_nil, followers, List.append_nil] at hnames
  have hlookup : ∀ x, s.types.lookup x = lastKind (Tree.listing {} p).entries x := fun x => by
    rw [htypes, lookup_declareAll_declarations]
  refine ⟨p, _, hp.yield_eq, hp.fits_nil, rfl, {
    main := hw.main.trans hl.lines
    functions := hw.functions.trans hl.functions
    order := hl.tokens
    types := htypes
    words := hwords
    names := ?_
    lookup := hlookup
    kinds := fun x => hlookup x ▸ lastKind_cases _ x
    line := fun e he word name equal value hs hstep => ?_
    reference := fun before e after heq => ?_ }⟩
  · rw [htypes, TypeTable.names_declareAll_empty, hwords, List.filterMap_map, declarations,
      List.map_map, ← List.filterMap_eq_map]
    rfl
  · have hlines := Entry.lines_declare hstep
    have hline : _ ∈ e.lines := hlines ▸ List.mem_singleton_self _
    refine ⟨_, hlines, ?_, rfl⟩
    rw [hw.main, hl.lines]
    exact Listing.line_mem hline he
  · have htypes : e.types = _ := Threaded.types_eq (heq ▸ hl.threaded)
    refine ⟨htypes, fun x => ?_⟩
    rw [Part.fragment, htypes, lookup_declareAll_declarations]

/-- A text that a function makes an integer of, with a parameter, an assignment and
references on the way. -/
def redeclaringSource : String :=
  "print x\nvar x = \"a\"\nfunction f(y) \x7b\nx = 1\nvar x = strlen(x)\n\x7d\nvar y = x\n"

abbrev redeclaringRun : EStateM.Result Failure State Unit :=
  Gen.run 5 (.ofTokens (tokenize redeclaringSource) (.ofSource redeclaringSource) true)

theorem table_records_declarations_redeclaring :
    ∃ s, redeclaringRun = .ok () s ∧ s.types.entries = [("x", .integer), ("y", .integer)] ∧
      s.output.main.toList = ["    __wear_print_int(x);\n", "    char* x = \"a\";\n",
        "    int y = x;\n"] ∧
      ∃ (p : Program) (l : Listing), yield p = beforeEnd (tokenize redeclaringSource) ∧
        Fits [] p ∧ l = Tree.listing {} p ∧ l.Records (tokenize redeclaringSource) s := by
  have hok : succeeds redeclaringRun = true ∧
      (ending redeclaringRun).types.entries = [("x", .integer), ("y", .integer)] ∧
      (ending redeclaringRun).output.main.toList = ["    __wear_print_int(x);\n",
        "    char* x = \"a\";\n", "    int y = x;\n"] := by
    decide +kernel
  obtain ⟨_, s, hrun⟩ := exists_of_succeeds hok.1
  rw [hrun] at hok
  exact ⟨s, hrun, hok.2.1, hok.2.2, table_records_declarations hrun⟩

end StageZero
