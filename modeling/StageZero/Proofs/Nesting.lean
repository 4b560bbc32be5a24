import StageZero.Proofs.Acceptance

/-!
# The C that is written is well nested

A body is written line by line, and a line is a statement, the head of a block
or a closing brace. `Nests` reads the lines of a body from left to right and
keeps the heads of the blocks that are open. Each line has to be indented by
four spaces for every open block and four more, a brace can only close what
is open, and an alternative has to stand right behind the brace of a branch.
What the generator does to keep this up, the depth it counts and the bodies it
stacks, is not mentioned.

A text alone does not tell its lines, since a name may hold a line break when
tokens are made by hand. The lines of a finished function are therefore taken
from the tree, where they stand before they are put together.

That the depth and the stack are back where they were at the end of a run is
nothing new: what a run writes is an emission, and an emission touches neither.
-/

namespace StageZero

open StageZero.Tree

/-! ## Bodies, line by line -/

/-- The heads of C constructs with a block. -/
inductive Head where
  | loop (test : String)
  | branch (test : String)
  | link (test : String)
  | other

namespace Head

def text : Head → String
  | .loop test => "while (" ++ test ++ ") \x7b"
  | .branch test => "if (" ++ test ++ ") \x7b"
  | .link test => "else if (" ++ test ++ ") \x7b"
  | .other => "else \x7b"

/-- Whether the block is an alternative to the one before it. -/
def isElse : Head → Bool
  | .link _ | .other => true
  | _ => false

/-- Whether an alternative may stand behind the block. -/
def takesElse : Head → Bool
  | .branch _ | .link _ => true
  | _ => false

end Head

/-- The code of a statement begins with a character that is no space, or with a
name that is assigned to or called. Names are what the tokens say they are, and
may begin with anything. -/
def Begins (tokens : List Token) (code : String) : Prop :=
  (∃ c ∈ code.toList.head?, c ≠ ' ') ∨
    ∃ t ∈ tokens, t.kind = .identifier ∧
      ∃ rest, code = t.value ++ " = " ++ rest ∨ code = t.value ++ "(" ++ rest

def spaces (n : Nat) : String :=
  String.ofList (List.replicate n ' ')

/-- Where one stands between two lines of a body. -/
structure Standing where
  /-- The heads of the open blocks, the innermost first. -/
  opened : List Head
  /-- The head of the block that the line before has closed. -/
  closed : Option Head

/-- The lines of a body from one place to another. -/
inductive Nests (tokens : List Token) : Standing → List String → Standing → Prop where
  | stop (p : Standing) : Nests tokens p [] p
  | plain {opened : List Head} {closed : Option Head} {code : String} {lines : List String}
      {p : Standing} (hc : Begins tokens code) (h : Nests tokens ⟨opened, none⟩ lines p) :
      Nests tokens ⟨opened, closed⟩
        ((spaces (4 * (opened.length + 1)) ++ code ++ ";\n") :: lines) p
  | opening {opened : List Head} {closed : Option Head} {lines : List String} {p : Standing}
      (head : Head) (hc : head.isElse = true → ∃ before ∈ closed, before.takesElse = true)
      (h : Nests tokens ⟨head :: opened, none⟩ lines p) :
      Nests tokens ⟨opened, closed⟩
        ((spaces (4 * (opened.length + 1)) ++ head.text ++ "\n") :: lines) p
  | closing {head : Head} {opened : List Head} {closed : Option Head} {lines : List String}
      {p : Standing} (h : Nests tokens ⟨opened, some head⟩ lines p) :
      Nests tokens ⟨head :: opened, closed⟩
        ((spaces (4 * (opened.length + 1)) ++ "\x7d" ++ "\n") :: lines) p

/-- The lines of a whole body: nothing is open before them and nothing behind. -/
def WellNested (tokens : List Token) (lines : List String) : Prop :=
  ∃ closed, Nests tokens ⟨[], none⟩ lines ⟨[], closed⟩

variable {tokens : List Token}

theorem Nests.append {p q r : Standing} {xs ys : List String} (h : Nests tokens p xs q)
    (h' : Nests tokens q ys r) : Nests tokens p (xs ++ ys) r := by
  induction h with
  | stop p => exact h'
  | plain hc h ih => exact .plain hc (ih h')
  | opening head hc h ih => exact .opening head hc (ih h')
  | closing h ih => exact .closing (ih h')

/-! ## How statements begin -/

theorem begins_append {a : String} (h : ∃ c ∈ a.toList.head?, c ≠ ' ') (b : String) :
    Begins tokens (a ++ b) := by
  obtain ⟨c, hc, hne⟩ := h
  refine .inl ⟨c, ?_, hne⟩
  rw [String.toList_append, List.head?_append, Option.mem_def.1 hc]
  rfl

/-- All routines of the support library have names of their own. -/
theorem begins_call {r : Routine} (h : ∃ c ∈ r.name.toList.head?, c ≠ ' ') (args : List String) :
    Begins tokens (r.call args) := by
  unfold Routine.call
  rw [String.append_assoc, String.append_assoc]
  exact begins_append h _

/-! ## Lines of trees -/

theorem margin_eq (depth : Nat) : BodyLine.margin depth = spaces (4 * depth) := rfl

section

variable {opened : List Head} {closed : Option Head}

theorem nests_plain {code : String} (hc : Begins tokens code) :
    Nests tokens ⟨opened, closed⟩ (Emission.line (opened.length + 1) (code ++ ";")).lines
      ⟨opened, none⟩ := by
  have hline : (Emission.line (opened.length + 1) (code ++ ";")).lines =
      [spaces (4 * (opened.length + 1)) ++ code ++ ";\n"] := by
    simp only [Emission.line, margin_eq, String.append_assoc]
    rfl
  rw [hline]
  exact .plain hc (.stop _)

/-- A block between its head and its brace. -/
theorem nests_enclosed (closed : Option Head) {head : Head} {text : String} {body : Emission}
    {p : Option Head} (ht : text ++ " \x7b" = head.text)
    (hc : head.isElse = true → ∃ before ∈ closed, before.takesElse = true)
    (h : Nests tokens ⟨head :: opened, none⟩ body.lines ⟨head :: opened, p⟩) :
    Nests tokens ⟨opened, closed⟩ (Emission.enclosed (opened.length + 1) text body).lines
      ⟨opened, some head⟩ := by
  have hlines : (Emission.enclosed (opened.length + 1) text body).lines =
      (spaces (4 * (opened.length + 1)) ++ head.text ++ "\n") ::
        (body.lines ++ [spaces (4 * (opened.length + 1)) ++ "\x7d" ++ "\n"]) := by
    rw [← ht, ← margin_eq]
    rfl
  rw [hlines]
  exact .opening head hc (h.append (.closing (.stop _)))

end

namespace Tree

theorem Test.head_text (types : TypeTable) (word : String) (test : Test) :
    test.head types word ++ " \x7b" = word ++ " (" ++ test.value.code types ++ ") \x7b" := by
  rw [Test.head, String.append_assoc]
  rfl

mutual

/-- The lines of a statement nest, wherever it stands. -/
theorem Stmt.nests (types : TypeTable) (opened : List Head) (closed : Option Head) :
    (s : Stmt) → s.yield ⊆ tokens →
      ∃ p, Nests tokens ⟨opened, closed⟩ (s.emission types (opened.length + 1)).lines ⟨opened, p⟩
  | .declare _ name _ value, _ => by
      refine ⟨none, nests_plain ?_⟩
      rw [String.append_assoc, String.append_assoc, String.append_assoc]
      refine begins_append ?_ _
      unfold Gen.variableType
      split
      · exact ⟨'c', rfl, by decide⟩
      · exact ⟨'i', rfl, by decide⟩
  | .print _ value, _ => by
      refine ⟨none, nests_plain (begins_call ?_ _)⟩
      unfold Gen.printRoutine
      split
      · exact ⟨'_', rfl, by decide⟩
      · exact ⟨'_', rfl, by decide⟩
  | .loop _ test body, hy => by
      have hbody : body.yield ⊆ tokens := fun t ht => hy (by simp [Stmt.yield, ht])
      obtain ⟨p, h⟩ := body.nests types (.loop (test.value.code types) :: opened) none hbody
      have ht : test.head types "while" ++ " \x7b" = (Head.loop (test.value.code types)).text :=
        test.head_text types "while"
      exact ⟨_, nests_enclosed closed ht (fun he => by cases he) h⟩
  | .branch _ test body links other, hy => by
      have hbody : body.yield ⊆ tokens := fun t ht => hy (by simp [Stmt.yield, ht])
      have hlinks : links.yield ⊆ tokens := fun t ht => hy (by simp [Stmt.yield, ht])
      have hother : other.yield ⊆ tokens := fun t ht => hy (by simp [Stmt.yield, ht])
      obtain ⟨p, h⟩ := body.nests types (.branch (test.value.code types) :: opened) none hbody
      have ht : test.head types "if" ++ " \x7b" = (Head.branch (test.value.code types)).text :=
        test.head_text types "if"
      have hfirst := nests_enclosed closed ht (fun he => by cases he) h
      obtain ⟨last, hlast, hsecond⟩ := links.nests _ opened (.branch _) rfl hlinks
      obtain ⟨q, hthird⟩ := other.nests _ opened last hlast hother
      exact ⟨q, (hfirst.append hsecond).append hthird⟩
  | .function _ _ _ _ _ _, _ => ⟨closed, .stop _⟩
  | .give _ value, _ => by
      unfold Stmt.emission
      split
      · have hreturn : Begins tokens "return" := .inl ⟨'r', rfl, by decide⟩
        have hcode : "return;" = "return" ++ ";" := rfl
        rw [hcode]
        exact ⟨none, nests_plain hreturn⟩
      · exact ⟨none, nests_plain (begins_append ⟨'r', rfl, by decide⟩ _)⟩
  | .writeFile _ _ name _ content _, _ =>
      ⟨none, nests_plain (begins_call ⟨'_', rfl, by decide⟩ _)⟩
  | .readFile _ _ name _, _ => ⟨none, nests_plain (begins_call ⟨'_', rfl, by decide⟩ _)⟩
  | .assign name _ value, hy => by
      have hname : name.as .identifier ∈ tokens := hy (by simp [Stmt.yield])
      exact ⟨none, nests_plain (.inr ⟨_, hname, rfl, _, .inl rfl⟩)⟩
  | .call name _ args _, hy => by
      have hname : name.as .identifier ∈ tokens := hy (by simp [Stmt.yield])
      have hcode : name.value ++ "(" ++ Text.joinWith ", " (args.codes types) ++ ");" =
          name.value ++ "(" ++ (Text.joinWith ", " (args.codes types) ++ ")") ++ ";" := by
        simp only [String.append_assoc]
        rfl
      refine ⟨none, ?_⟩
      rw [Stmt.emission, hcode]
      exact nests_plain (.inr ⟨_, hname, rfl, _, .inr rfl⟩)
  | .idle _, _ => ⟨closed, .stop _⟩
  | .skipped tok _, _ => by
      unfold Stmt.emission
      split
      · exact ⟨closed, .stop _⟩
      · exact ⟨closed, .stop _⟩

theorem Block.nests (types : TypeTable) (opened : List Head) (closed : Option Head) :
    (b : Block) → b.yield ⊆ tokens →
      ∃ p, Nests tokens ⟨opened, closed⟩ (b.emission types (opened.length + 1)).lines ⟨opened, p⟩
  | .mk _ items _, hy => items.nests types opened closed fun t ht => hy (by simp [Block.yield, ht])

theorem Items.nests (types : TypeTable) (opened : List Head) (closed : Option Head) :
    (items : Items) → items.yield ⊆ tokens →
      ∃ p, Nests tokens ⟨opened, closed⟩ (items.emission types (opened.length + 1)).lines
        ⟨opened, p⟩
  | .nil, _ => ⟨closed, .stop _⟩
  | .line _ rest, hy => rest.nests types opened closed fun t ht => hy (by simp [Items.yield, ht])
  | .stmt s rest, hy => by
      obtain ⟨p, h⟩ := s.nests types opened closed fun t ht => hy (by simp [Items.yield, ht])
      obtain ⟨q, h'⟩ := rest.nests _ opened p fun t ht => hy (by simp [Items.yield, ht])
      exact ⟨q, h.append h'⟩

/-- Links stand behind a branch and leave one behind. -/
theorem Links.nests (types : TypeTable) (opened : List Head) (before : Head)
    (hb : before.takesElse = true) : (links : Links) → links.yield ⊆ tokens →
      ∃ last, last.takesElse = true ∧ Nests tokens ⟨opened, some before⟩
        (links.emission types (opened.length + 1)).lines ⟨opened, some last⟩
  | .nil, _ => ⟨before, hb, .stop _⟩
  | .cons _ _ _ test body rest, hy => by
      have hbody : body.yield ⊆ tokens := fun t ht => hy (by simp [Links.yield, ht])
      have hrest : rest.yield ⊆ tokens := fun t ht => hy (by simp [Links.yield, ht])
      obtain ⟨p, h⟩ := body.nests types (.link (test.value.code types) :: opened) none hbody
      have ht : test.head types "else if" ++ " \x7b" = (Head.link (test.value.code types)).text :=
        test.head_text types "else if"
      have hlink := nests_enclosed (some before) ht (fun _ => ⟨before, rfl, hb⟩) h
      obtain ⟨last, hlast, h'⟩ := rest.nests _ opened (.link _) rfl hrest
      exact ⟨last, hlast, hlink.append h'⟩

theorem Other.nests (types : TypeTable) (opened : List Head) (before : Head)
    (hb : before.takesElse = true) : (other : Other) → other.yield ⊆ tokens →
      ∃ p, Nests tokens ⟨opened, some before⟩ (other.emission types (opened.length + 1)).lines
        ⟨opened, p⟩
  | .none, _ => ⟨some before, .stop _⟩
  | .some _ _ body, hy => by
      have hbody : body.yield ⊆ tokens := fun t ht => hy (by simp [Other.yield, ht])
      obtain ⟨p, h⟩ := body.nests types (.other :: opened) none hbody
      have ht : "else" ++ " \x7b" = Head.other.text := rfl
      exact ⟨_, nests_enclosed (some before) ht (fun _ => ⟨before, rfl, hb⟩) h⟩

end

/-! ## The bodies of functions -/

/-- A finished function, with the lines of its body apart. -/
structure Body where
  name : String
  params : List String
  lines : List String

def Body.text (b : Body) : String :=
  Text.concat ((Gen.functionHeader b.name b.params ++ " \x7b\n") :: (b.lines ++ ["\x7d\n\n"]))

mutual

/-- The functions that a statement finishes, in the order in which they end. The
depth and the types are those under which it is written. -/
def Stmt.bodies (types : TypeTable) (indent : Nat) : Stmt → List Body
  | .loop _ _ body => body.bodies types (indent + 1)
  | .branch _ test body links other =>
    let first := Emission.enclosed indent (test.head types "if") (body.emission types (indent + 1))
    let types₁ := types.declareAll first.declared
    let second := links.emission types₁ indent
    body.bodies types (indent + 1) ++ links.bodies types₁ indent ++
      other.bodies (types₁.declareAll second.declared) indent
  | .function _ name _ params _ body =>
    body.bodies types 1 ++ [⟨name.value, params.names, (body.emission types 1).lines⟩]
  | _ => []

def Block.bodies (types : TypeTable) (indent : Nat) : Block → List Body
  | .mk _ items _ => items.bodies types indent

def Items.bodies (types : TypeTable) (indent : Nat) : Items → List Body
  | .nil => []
  | .line _ rest => rest.bodies types indent
  | .stmt s rest =>
    s.bodies types indent ++
      rest.bodies (types.declareAll (s.emission types indent).declared) indent

def Links.bodies (types : TypeTable) (indent : Nat) : Links → List Body
  | .nil => []
  | .cons _ _ _ test body rest =>
    let e := Emission.enclosed indent (test.head types "else if") (body.emission types (indent + 1))
    body.bodies types (indent + 1) ++ rest.bodies (types.declareAll e.declared) indent

def Other.bodies (types : TypeTable) (indent : Nat) : Other → List Body
  | .none => []
  | .some _ _ body => body.bodies types (indent + 1)

end

def Top.bodies (types : TypeTable) : Top → List Body
  | .stmt s => s.bodies types 1
  | _ => []

def bodies (types : TypeTable) : Program → List Body
  | [] => []
  | t :: p => t.bodies types ++ bodies (types.declareAll (t.emission types).declared) p

theorem Emission.functions_append (e f : Emission) :
    (e ++ f).functions = e.functions ++ f.functions := rfl

theorem Emission.functions_enclosed (indent : Nat) (head : String) (e : Emission) :
    (Emission.enclosed indent head e).functions = e.functions := by
  simp [Emission.enclosed, Emission.functions_append, Emission.line]

mutual

theorem Stmt.functions_eq (types : TypeTable) (indent : Nat) :
    (s : Stmt) → (s.emission types indent).functions = (s.bodies types indent).map Body.text
  | .loop _ _ body => by
      rw [Stmt.emission, Emission.functions_enclosed, body.functions_eq]
      rfl
  | .branch _ _ body links other => by
      simp only [Stmt.emission, Stmt.bodies, Emission.functions_append,
        Emission.functions_enclosed, body.functions_eq, links.functions_eq, other.functions_eq,
        List.map_append]
  | .function _ name _ params _ body => by
      simp only [Stmt.emission, Stmt.bodies, Emission.function, body.functions_eq, List.map_append]
      rfl
  | .give _ _ => by
      unfold Stmt.emission
      split
      · rfl
      · rfl
  | .skipped _ _ => by
      unfold Stmt.emission
      split
      · rfl
      · rfl
  | .declare _ _ _ _ | .print _ _ | .writeFile _ _ _ _ _ _ | .readFile _ _ _ _ | .assign _ _ _
  | .call _ _ _ _ | .idle _ => rfl

theorem Block.functions_eq (types : TypeTable) (indent : Nat) :
    (b : Block) → (b.emission types indent).functions = (b.bodies types indent).map Body.text
  | .mk _ items _ => items.functions_eq types indent

theorem Items.functions_eq (types : TypeTable) (indent : Nat) : (items : Items) →
    (items.emission types indent).functions = (items.bodies types indent).map Body.text
  | .nil => rfl
  | .line _ rest => rest.functions_eq types indent
  | .stmt s rest => by
      simp only [Items.emission, Items.bodies, Emission.functions_append, s.functions_eq,
        rest.functions_eq, List.map_append]

theorem Links.functions_eq (types : TypeTable) (indent : Nat) : (links : Links) →
    (links.emission types indent).functions = (links.bodies types indent).map Body.text
  | .nil => rfl
  | .cons _ _ _ _ body rest => by
      simp only [Links.emission, Links.bodies, Emission.functions_append,
        Emission.functions_enclosed, body.functions_eq, rest.functions_eq, List.map_append]

theorem Other.functions_eq (types : TypeTable) (indent : Nat) : (other : Other) →
    (other.emission types indent).functions = (other.bodies types indent).map Body.text
  | .none => rfl
  | .some _ _ body => by
      rw [Other.emission, Emission.functions_enclosed, body.functions_eq]
      rfl

end

/-- The functions of a program are the texts of the bodies in it. -/
theorem functions_emission (types : TypeTable) (p : Program) :
    (emission types p).functions = (bodies types p).map Body.text := by
  induction p generalizing types with
  | nil => rfl
  | cons t p ih =>
      have htop : (t.emission types).functions = (t.bodies types).map Body.text := by
        cases t with
        | line m => rfl
        | stray m => rfl
        | stmt s => exact s.functions_eq types 1
      rw [emission, Emission.functions_append, htop, ih, bodies, List.map_append]

mutual

theorem Stmt.wellNested_bodies (types : TypeTable) (indent : Nat) : (s : Stmt) →
    s.yield ⊆ tokens → ∀ b ∈ s.bodies types indent, WellNested tokens b.lines
  | .loop _ _ body, hy =>
      body.wellNested_bodies types _ fun t ht => hy (by simp [Stmt.yield, ht])
  | .branch _ _ body links other, hy => by
      simp only [Stmt.bodies, List.forall_mem_append]
      exact ⟨⟨body.wellNested_bodies types _ fun t ht => hy (by simp [Stmt.yield, ht]),
        links.wellNested_bodies _ indent fun t ht => hy (by simp [Stmt.yield, ht])⟩,
        other.wellNested_bodies _ indent fun t ht => hy (by simp [Stmt.yield, ht])⟩
  | .function _ _ _ _ _ body, hy => by
      have hbody : body.yield ⊆ tokens := fun t ht => hy (by simp [Stmt.yield, ht])
      simp only [Stmt.bodies, List.forall_mem_append, List.forall_mem_singleton]
      -- a body begins at depth one with nothing open, whatever is open around it
      exact ⟨body.wellNested_bodies types 1 hbody, body.nests types [] none hbody⟩
  | .declare _ _ _ _, _ | .print _ _, _ | .give _ _, _ | .writeFile _ _ _ _ _ _, _
  | .readFile _ _ _ _, _ | .assign _ _ _, _ | .call _ _ _ _, _ | .idle _, _ | .skipped _ _, _ => by
      simp [Stmt.bodies]

theorem Block.wellNested_bodies (types : TypeTable) (indent : Nat) : (b : Block) →
    b.yield ⊆ tokens → ∀ f ∈ b.bodies types indent, WellNested tokens f.lines
  | .mk _ items _, hy =>
      items.wellNested_bodies types indent fun t ht => hy (by simp [Block.yield, ht])

theorem Items.wellNested_bodies (types : TypeTable) (indent : Nat) : (items : Items) →
    items.yield ⊆ tokens → ∀ b ∈ items.bodies types indent, WellNested tokens b.lines
  | .nil, _ => by simp [Items.bodies]
  | .line _ rest, hy =>
      rest.wellNested_bodies types indent fun t ht => hy (by simp [Items.yield, ht])
  | .stmt s rest, hy => by
      simp only [Items.bodies, List.forall_mem_append]
      exact ⟨s.wellNested_bodies types indent fun t ht => hy (by simp [Items.yield, ht]),
        rest.wellNested_bodies _ indent fun t ht => hy (by simp [Items.yield, ht])⟩

theorem Links.wellNested_bodies (types : TypeTable) (indent : Nat) : (links : Links) →
    links.yield ⊆ tokens → ∀ b ∈ links.bodies types indent, WellNested tokens b.lines
  | .nil, _ => by simp [Links.bodies]
  | .cons _ _ _ _ body rest, hy => by
      simp only [Links.bodies, List.forall_mem_append]
      exact ⟨body.wellNested_bodies types _ fun t ht => hy (by simp [Links.yield, ht]),
        rest.wellNested_bodies _ indent fun t ht => hy (by simp [Links.yield, ht])⟩

theorem Other.wellNested_bodies (types : TypeTable) (indent : Nat) : (other : Other) →
    other.yield ⊆ tokens → ∀ b ∈ other.bodies types indent, WellNested tokens b.lines
  | .none, _ => by simp [Other.bodies]
  | .some _ _ body, hy =>
      body.wellNested_bodies types _ fun t ht => hy (by simp [Other.yield, ht])

end

theorem wellNested_bodies (types : TypeTable) {p : Program} (hy : yield p ⊆ tokens) :
    ∀ b ∈ bodies types p, WellNested tokens b.lines := by
  induction p generalizing types with
  | nil => simp [bodies]
  | cons t p ih =>
      rw [yield_cons, List.append_subset] at hy
      simp only [bodies, List.forall_mem_append]
      refine ⟨?_, ih _ hy.2⟩
      cases t with
      | line m => simp [Top.bodies]
      | stray m => simp [Top.bodies]
      | stmt s => exact s.wellNested_bodies types 1 hy.1

/-- The lines of a program nest. -/
theorem nests_emission (types : TypeTable) (closed : Option Head) {p : Program}
    (hy : yield p ⊆ tokens) :
    ∃ q, Nests tokens ⟨[], closed⟩ (emission types p).lines ⟨[], q⟩ := by
  induction p generalizing types closed with
  | nil => exact ⟨closed, .stop _⟩
  | cons t p ih =>
      rw [yield_cons, List.append_subset] at hy
      obtain ⟨q, htop⟩ : ∃ q, Nests tokens ⟨[], closed⟩ (t.emission types).lines ⟨[], q⟩ := by
        cases t with
        | line m => exact ⟨closed, .stop _⟩
        | stray m => exact ⟨closed, .stop _⟩
        | stmt s => exact s.nests types [] closed hy.1
      obtain ⟨q', hrest⟩ := ih (types.declareAll (t.emission types).declared) q hy.2
      exact ⟨q', htop.append hrest⟩

end Tree

/-! ## Runs -/

theorem beforeEnd_subset (tokens : List Token) : beforeEnd tokens ⊆ tokens :=
  (List.takeWhile_sublist _).subset

/-- A run that succeeds has come back to depth one with no body open, and what it
has written is well nested: the lines of the main body, and the lines of every
function that it has finished. -/
theorem output_is_well_nested {depth : Nat} {report : Report} {debug : Bool} {s : State}
    (h : Gen.run depth (.ofTokens tokens report debug) = .ok () s) :
    s.output.indent = 1 ∧ s.output.bodies = [] ∧ WellNested tokens s.output.main.toList ∧
      ∃ p : Program, yield p = beforeEnd tokens ∧ Fits [] p ∧ Wrote report (emission {} p) s ∧
        s.output.functions.toList = (bodies {} p).map Body.text ∧
        ∀ b ∈ bodies {} p, WellNested tokens b.lines := by
  obtain ⟨p, c, hp, hs⟩ := Gen.of_run_quiet h
  have hw := Gen.wrote_of_quiet hs
  have houtput : s.output = Output.extend {} (emission {} p) := congrArg State.output hs
  have hy : yield p ⊆ tokens := by
    rw [hp.yield_eq]
    exact beforeEnd_subset tokens
  refine ⟨by rw [houtput, Output.indent_extend], by rw [houtput]; rfl, ?_, p, hp.yield_eq,
    hp.fits_nil, hw, ?_, wellNested_bodies {} hy⟩
  · rw [hw.main]
    exact nests_emission {} none hy
  · rw [hw.functions, functions_emission]

/-- A function in a loop, with a branch and its alternatives in it. -/
def mixedSource : String :=
  "while (a) \x7b\nfunction f(p) \x7b\nif (p) \x7b\n\x7d\nelse if (1) \x7b\n" ++
    "x = 1\n\x7d else \x7b\nreturn p\n\x7d\n\x7d\nf(a)\n\x7d\n"

theorem output_is_well_nested_mixed :
    ∃ s, Gen.run 5 (.ofTokens (tokenize mixedSource) (.ofSource mixedSource) true) = .ok () s ∧
      s.output.main.toList = ["    while (a) \x7b\n", "        f(a);\n", "    \x7d\n"] ∧
      s.output.functions.toList =
        ["int f(char* p) \x7b\n" ++ "    if (p) \x7b\n" ++ "    \x7d\n" ++
          "    else if (1) \x7b\n" ++ "        x = 1;\n" ++ "    \x7d\n" ++
          "    else \x7b\n" ++ "        return p;\n" ++ "    \x7d\n" ++ "\x7d\n\n"] ∧
      WellNested (tokenize mixedSource) s.output.main.toList ∧
      ∃ p : Program, s.output.functions.toList = (bodies {} p).map Body.text ∧
        ∀ b ∈ bodies {} p, WellNested (tokenize mixedSource) b.lines := by
  have hok : succeeds (Gen.run 5 (.ofTokens (tokenize mixedSource) (.ofSource mixedSource) true)) =
      true := by
    decide +kernel
  obtain ⟨_, s, hrun⟩ := exists_of_succeeds hok
  have hs : ending (Gen.run 5 (.ofTokens (tokenize mixedSource) (.ofSource mixedSource) true)) =
      s := congrArg ending hrun
  obtain ⟨-, -, hmain, p, -, -, -, hfunctions, hbodies⟩ := output_is_well_nested hrun
  refine ⟨s, hrun, and_assoc.1 ⟨?_, hmain, p, hfunctions, hbodies⟩⟩
  rw [← hs]
  decide +kernel

end StageZero
