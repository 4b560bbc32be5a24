import StageZero.Proofs.Growth
import StageZero.Proofs.Nesting

/-!
# Functions by their nesting

Functions may be declared anywhere, also in loops and in other functions, and C
wants none inside another. A function is therefore named when it begins and put
down when it ends, and the two orders differ. An `Outline` is what both come
from: a forest of functions, with the entries that other statements leave
between them. Names are listed in preorder and functions in postorder, and an
entry goes to the function whose forest it lies in, or to the main body.

The outline of a program is a recursion on its tree. That it is an outline of
the tokens as well, whatever the tree was, is `Outline.Covers`: each of its
functions begins at a word for one, with the name and the parameters that stand
there, and holds what the braces behind them hold.
-/

namespace StageZero

/-- What stands directly behind each token of a kind, if anything does. -/
def followers (kind : TokenKind) : List Token → List (Option Token)
  | [] => []
  | t :: ts => if t.kind = kind then ts.head? :: followers kind ts else followers kind ts

theorem followers_cons_of_eq {kind : TokenKind} {t : Token} (h : t.kind = kind) (ts : List Token) :
    followers kind (t :: ts) = ts.head? :: followers kind ts :=
  if_pos h

open StageZero.Tree

theorem followers_append_of_without {kind : TokenKind} {ts : List Token} (h : Without kind ts)
    (us : List Token) : followers kind (ts ++ us) = followers kind us := by
  induction ts with
  | nil => rfl
  | cons t ts ih =>
      rw [without_cons] at h
      rw [List.cons_append, followers, if_neg h.1, ih h.2]

/-! ## Outlines -/

/-- A forest of functions with entries between them. -/
inductive Outline where
  | nil
  | entry (text : String) (rest : Outline)
  | function (name : Mark) (params : Params) (inner rest : Outline)

namespace Outline

def append : Outline → Outline → Outline
  | .nil, o => o
  | .entry text rest, o => .entry text (rest.append o)
  | .function name params inner rest, o => .function name params inner (rest.append o)

instance : Append Outline := ⟨append⟩

@[simp] theorem nil_append (o : Outline) : nil ++ o = o := rfl

@[simp] theorem entry_append (text : String) (rest o : Outline) :
    entry text rest ++ o = entry text (rest ++ o) := rfl

@[simp] theorem function_append (name : Mark) (params : Params) (inner rest o : Outline) :
    function name params inner rest ++ o = function name params inner (rest ++ o) := rfl

@[simp] theorem append_nil (o : Outline) : o ++ nil = o := by
  induction o with
  | nil => rfl
  | entry text rest ih => rw [entry_append, ih]
  | function name params inner rest _ ih => rw [function_append, ih]

def entries (lines : List String) : Outline :=
  lines.foldr entry nil

/-- The entries that lie in no function of the outline. -/
def direct : Outline → List String
  | .nil => []
  | .entry text rest => text :: rest.direct
  | .function _ _ _ rest => rest.direct

/-- The names of the functions, each before those inside it. -/
def preorder : Outline → List Mark
  | .nil => []
  | .entry _ rest => rest.preorder
  | .function name _ inner rest => name :: (inner.preorder ++ rest.preorder)

/-- The functions, each behind those inside it. -/
def postorder : Outline → List Body
  | .nil => []
  | .entry _ rest => rest.postorder
  | .function name params inner rest =>
    inner.postorder ++ ⟨name.value, params.names, inner.direct⟩ :: rest.postorder

section

variable (o o' : Outline) (lines : List String)

@[simp] theorem direct_append : (o ++ o').direct = o.direct ++ o'.direct := by
  induction o with
  | nil => rfl
  | entry text rest ih => rw [entry_append, direct, direct, ih, List.cons_append]
  | function name params inner rest _ ih => rw [function_append, direct, direct, ih]

@[simp] theorem preorder_append : (o ++ o').preorder = o.preorder ++ o'.preorder := by
  induction o with
  | nil => rfl
  | entry text rest ih => rw [entry_append, preorder, preorder, ih]
  | function name params inner rest _ ih =>
      rw [function_append, preorder, preorder, ih, List.cons_append, List.append_assoc]

@[simp] theorem postorder_append : (o ++ o').postorder = o.postorder ++ o'.postorder := by
  induction o with
  | nil => rfl
  | entry text rest ih => rw [entry_append, postorder, postorder, ih]
  | function name params inner rest _ ih =>
      rw [function_append, postorder, postorder, ih, List.append_assoc, List.cons_append]

@[simp] theorem direct_entries : (entries lines).direct = lines := by
  induction lines with
  | nil => rfl
  | cons text lines ih => exact congrArg (text :: ·) ih

@[simp] theorem preorder_entries : (entries lines).preorder = [] := by
  induction lines with
  | nil => rfl
  | cons text lines ih => exact ih

@[simp] theorem postorder_entries : (entries lines).postorder = [] := by
  induction lines with
  | nil => rfl
  | cons text lines ih => exact ih

theorem length_postorder : o.postorder.length = o.preorder.length := by
  induction o with
  | nil => rfl
  | entry text rest ih => exact ih
  | function name params inner rest ih ih' =>
      simp only [postorder, preorder, List.length_append, List.length_cons, ih, ih']
      omega

end

/-! ### Functions in an outline -/

/-- A function stands somewhere in an outline, at whatever depth. -/
inductive Holds : Outline → Mark → Params → Outline → Prop where
  | here {name : Mark} {params : Params} {inner rest : Outline} :
      Holds (.function name params inner rest) name params inner
  | past {text : String} {rest : Outline} {name : Mark} {params : Params} {inner : Outline}
      (h : Holds rest name params inner) : Holds (.entry text rest) name params inner
  | inside {name' name : Mark} {params' params : Params} {inner' rest inner : Outline}
      (h : Holds inner' name params inner) :
      Holds (.function name' params' inner' rest) name params inner
  | behind {name' name : Mark} {params' params : Params} {inner' rest inner : Outline}
      (h : Holds rest name params inner) :
      Holds (.function name' params' inner' rest) name params inner

/-- The functions inside a function come directly before it. -/
theorem Holds.postorder {o inner : Outline} {name : Mark} {params : Params}
    (h : o.Holds name params inner) :
    ∃ before behind, o.postorder = before ++
      (inner.postorder ++ ⟨name.value, params.names, inner.direct⟩ :: behind) := by
  induction h with
  | here => exact ⟨[], _, rfl⟩
  | past _ ih => exact ih
  | @inside name' _ params' _ inner' rest _ _ ih =>
      obtain ⟨before, behind, h⟩ := ih
      refine ⟨before,
        behind ++ ⟨name'.value, params'.names, inner'.direct⟩ :: rest.postorder, ?_⟩
      rw [Outline.postorder, h]
      simp only [List.append_assoc, List.cons_append]
  | @behind name' _ params' _ inner' _ _ _ ih =>
      obtain ⟨before, behind, h⟩ := ih
      refine ⟨inner'.postorder ++ ⟨name'.value, params'.names, inner'.direct⟩ :: before, behind, ?_⟩
      rw [Outline.postorder, h, List.append_assoc, List.cons_append]

/-! ### Outlines of token lists -/

/-- The outline has the functions of a token list. Between them there is no word
for a function; what a function has in it is in its braces. -/
inductive Covers : Outline → List Token → Prop where
  | none {ts : List Token} (h : Without (.keyword .functionK) ts) : Covers .nil ts
  | entry {text : String} {rest : Outline} {ts : List Token} (h : Covers rest ts) :
      Covers (.entry text rest) ts
  | function {word name opening closing left right : Mark} {params : Params} {inner rest : Outline}
      {before ts us : List Token} (hb : Without (.keyword .functionK) before)
      (hi : Covers inner ts) (hr : Covers rest us) :
      Covers (.function name params inner rest) (before ++
        word.as (.keyword .functionK) :: name.as .identifier :: opening.as .lparen ::
          (params.yield ++ closing.as .rparen :: left.as .lbrace ::
            (ts ++ right.as .rbrace :: us)))

namespace Covers

variable {o o' : Outline} {ts us : List Token}

/-- Tokens without a function may stand in front. -/
theorem behind (h : Covers o ts) (hb : Without (.keyword .functionK) us) : Covers o (us ++ ts) := by
  induction h with
  | none h => exact .none ((without_append _ _).2 ⟨hb, h⟩)
  | entry _ ih => exact .entry ih
  | function hb' hi hr =>
      rw [← List.append_assoc]
      exact .function ((without_append _ _).2 ⟨hb, hb'⟩) hi hr

theorem append (h : Covers o ts) (h' : Covers o' us) : Covers (o ++ o') (ts ++ us) := by
  induction h with
  | none h => exact h'.behind h
  | entry _ ih => exact .entry ih
  | function hb hi _ _ ih =>
      simpa only [List.append_assoc, List.cons_append, function_append] using
        Covers.function hb hi ih

theorem entries (lines : List String) (h : Without (.keyword .functionK) ts) :
    Covers (Outline.entries lines) ts := by
  induction lines with
  | nil => exact .none h
  | cons text lines ih => exact .entry ih

/-- Behind each word for a function stands the name of one, in preorder. -/
theorem followers_append (h : Covers o ts) (us : List Token) :
    followers (.keyword .functionK) (ts ++ us) =
      o.preorder.map (fun m => some (m.as .identifier)) ++ followers (.keyword .functionK) us := by
  induction h generalizing us with
  | none h => exact followers_append_of_without h us
  | entry _ ih => exact ih us
  | @function word name opening closing left right params inner rest before ts us' hb _ _ ih ih' =>
      have hparams : Without (.keyword .functionK) params.yield :=
        without_of_inExpression params.inExpression_yield rfl
      have hhead : Without (.keyword .functionK)
          (name.as .identifier :: opening.as .lparen ::
            (params.yield ++ [closing.as .rparen, left.as .lbrace])) := by
        simp [hparams]
      have hright : Without (.keyword .functionK) [right.as .rbrace] := by simp
      calc followers (.keyword .functionK) _
        _ = followers (.keyword .functionK) (word.as (.keyword .functionK) ::
              ((name.as .identifier :: opening.as .lparen ::
                (params.yield ++ [closing.as .rparen, left.as .lbrace])) ++
                  (ts ++ ([right.as .rbrace] ++ (us' ++ us))))) := by
            rw [List.append_assoc, followers_append_of_without hb]
            simp only [List.append_assoc, List.cons_append, List.nil_append]
        _ = some (name.as .identifier) :: (inner.preorder.map (fun m => some (m.as .identifier)) ++
              (rest.preorder.map (fun m => some (m.as .identifier)) ++
                followers (.keyword .functionK) us)) := by
            rw [followers_cons_of_eq (Mark.as_kind _ _), followers_append_of_without hhead, ih,
              followers_append_of_without hright, ih']
            rfl
        _ = _ := by
            rw [preorder, List.map_cons, List.map_append, List.cons_append, List.append_assoc]

theorem followers_eq (h : Covers o ts) :
    followers (.keyword .functionK) ts = o.preorder.map fun m => some (m.as .identifier) := by
  have := h.followers_append []
  rwa [List.append_nil, followers, List.append_nil] at this

end Covers

/-- The outline of a construct around that of its block. -/
def enclosed (indent : Nat) (head : String) (o : Outline) : Outline :=
  entries (Emission.line indent (head ++ " \x7b")).lines ++ o ++
    entries (Emission.line indent "\x7d").lines

end Outline

namespace Tree

/-! ## The outline of a tree -/

mutual

/-- The outline of a statement, at the depth and under the types with which it
is written. What is neither a function nor around a block leaves its line. -/
def Stmt.outline (types : TypeTable) (indent : Nat) : Stmt → Outline
  | .loop _ test body =>
    .enclosed indent (test.head types "while") (body.outline types (indent + 1))
  | .branch _ test body links other =>
    let first := Emission.enclosed indent (test.head types "if") (body.emission types (indent + 1))
    let types₁ := types.declareAll first.declared
    let second := links.emission types₁ indent
    .enclosed indent (test.head types "if") (body.outline types (indent + 1)) ++
      links.outline types₁ indent ++ other.outline (types₁.declareAll second.declared) indent
  | .function _ name _ params _ body => .function name params (body.outline types 1) .nil
  | s => .entries (s.emission types indent).lines

def Block.outline (types : TypeTable) (indent : Nat) : Block → Outline
  | .mk _ items _ => items.outline types indent

def Items.outline (types : TypeTable) (indent : Nat) : Items → Outline
  | .nil => .nil
  | .line _ rest => rest.outline types indent
  | .stmt s rest =>
    s.outline types indent ++
      rest.outline (types.declareAll (s.emission types indent).declared) indent

def Links.outline (types : TypeTable) (indent : Nat) : Links → Outline
  | .nil => .nil
  | .cons _ _ _ test body rest =>
    let e := Emission.enclosed indent (test.head types "else if") (body.emission types (indent + 1))
    .enclosed indent (test.head types "else if") (body.outline types (indent + 1)) ++
      rest.outline (types.declareAll e.declared) indent

def Other.outline (types : TypeTable) (indent : Nat) : Other → Outline
  | .none => .nil
  | .some _ _ body => .enclosed indent "else" (body.outline types (indent + 1))

end

def Top.outline (types : TypeTable) : Top → Outline
  | .stmt s => s.outline types 1
  | _ => .nil

def outline (types : TypeTable) : Program → Outline
  | [] => .nil
  | t :: p => t.outline types ++ outline (types.declareAll (t.emission types).declared) p

/-- Tokens with their outline and what they are written as. -/
structure Outlined (o : Outline) (e : Emission) (ts : List Token) : Prop where
  covers : o.Covers ts
  lines : e.lines = o.direct
  functions : e.functions = o.postorder.map Body.text
  names : e.names = o.preorder.map Mark.value

namespace Outlined

variable {o o' : Outline} {e f : Emission} {ts us : List Token}

theorem plain (hf : e.functions = []) (hn : e.names = [])
    (h : Without (.keyword .functionK) ts) : Outlined (.entries e.lines) e ts where
  covers := .entries e.lines h
  lines := (Outline.direct_entries e.lines).symm
  functions := by rw [hf, Outline.postorder_entries, List.map_nil]
  names := by rw [hn, Outline.preorder_entries, List.map_nil]

theorem append (h : Outlined o e ts) (h' : Outlined o' f us) :
    Outlined (o ++ o') (e ++ f) (ts ++ us) where
  covers := h.covers.append h'.covers
  lines := by
    show e.lines ++ f.lines = _
    rw [h.lines, h'.lines, Outline.direct_append]
  functions := by
    rw [Emission.functions_append, h.functions, h'.functions, Outline.postorder_append,
      List.map_append]
  names := by
    show e.names ++ f.names = _
    rw [h.names, h'.names, Outline.preorder_append, List.map_append]

theorem behind (h : Outlined o e ts) (hb : Without (.keyword .functionK) us) :
    Outlined o e (us ++ ts) :=
  { h with covers := h.covers.behind hb }

theorem ahead (h : Outlined o e ts) (hb : Without (.keyword .functionK) us) :
    Outlined o e (ts ++ us) := by
  have := h.append (plain (e := .empty) rfl rfl hb)
  rwa [show Outline.entries Emission.empty.lines = .nil from rfl, Outline.append_nil,
    Emission.append_empty] at this

theorem enclosed (h : Outlined o e ts) (indent : Nat) (head : String) :
    Outlined (o.enclosed indent head) (Emission.enclosed indent head e) ts := by
  have := ((plain (e := .line indent (head ++ " \x7b")) rfl rfl without_nil).append h).append
    (plain (e := .line indent "\x7d") rfl rfl without_nil)
  rwa [List.nil_append, List.append_nil] at this

theorem function (h : Outlined o e ts) (word name opening closing left right : Mark)
    (params : Params) :
    Outlined (.function name params o .nil) (.function name.value params.names e)
      (word.as (.keyword .functionK) :: name.as .identifier :: opening.as .lparen ::
        (params.yield ++ closing.as .rparen :: left.as .lbrace ::
          (ts ++ [right.as .rbrace]))) where
  covers := .function without_nil h.covers (.none without_nil)
  lines := rfl
  functions := by
    rw [Outline.postorder, List.map_append, ← h.functions, ← h.lines]
    rfl
  names := by
    rw [Outline.preorder, List.map_cons, List.map_append, ← h.names]
    exact congrArg (name.value :: ·) (List.append_nil e.names).symm

end Outlined

/-- Words for functions open statements, and can be looked for there. -/
theorem without_of_filter_opens {kind : TokenKind} (hk : kind.opensStatement = true)
    {ts : List Token} (h : Without kind (ts.filter opens)) : Without kind ts :=
  fun t ht htk => h t (List.mem_filter.2 ⟨ht, by rw [opens, htk, hk]⟩) htk

theorem Stmt.outlined_plain {types : TypeTable} {indent : Nat} {s : Stmt}
    (hf : (s.emission types indent).functions = []) (hn : (s.emission types indent).names = [])
    (hs : Without (.keyword .functionK) s.openings) :
    Outlined (.entries (s.emission types indent).lines) (s.emission types indent) s.yield := by
  rw [← s.filter_opens] at hs
  exact .plain hf hn (without_of_filter_opens rfl hs)

mutual

theorem Stmt.outlined (types : TypeTable) (indent : Nat) :
    (s : Stmt) → Outlined (s.outline types indent) (s.emission types indent) s.yield
  | .loop word test body => by
      have hword : Without (.keyword .functionK) (word.as (.keyword .whileK) :: test.yield) :=
        without_of_filter_opens rfl (by simp [opens, TokenKind.opensStatement])
      exact ((body.outlined types _).enclosed indent _).behind hword
  | .branch word test body links other => by
      have hword : Without (.keyword .functionK) (word.as (.keyword .ifK) :: test.yield) :=
        without_of_filter_opens rfl (by simp [opens, TokenKind.opensStatement])
      have hbody :=
        ((body.outlined types (indent + 1)).enclosed indent (test.head types "if")).behind hword
      exact (hbody.append (links.outlined _ indent)).append (other.outlined _ indent)
  | .function word name opening params closing (.mk left items right) =>
      (items.outlined types 1).function word name opening closing left right params
  | .declare _ _ _ _ | .print _ _ | .writeFile _ _ _ _ _ _ | .readFile _ _ _ _ | .assign _ _ _
  | .call _ _ _ _ | .idle _ => Stmt.outlined_plain rfl rfl (by simp [Stmt.openings])
  | .give _ _ | .skipped _ _ => by
      apply Stmt.outlined_plain
      · rw [Stmt.emission]
        split <;> rfl
      · rw [Stmt.emission]
        split <;> rfl
      · simp [Stmt.openings]

theorem Block.outlined (types : TypeTable) (indent : Nat) :
    (b : Block) → Outlined (b.outline types indent) (b.emission types indent) b.yield
  | .mk left items right => by
      have hleft : Without (.keyword .functionK) [left.as .lbrace] := by simp
      have hright : Without (.keyword .functionK) [right.as .rbrace] := by simp
      exact ((items.outlined types indent).ahead hright).behind hleft

theorem Items.outlined (types : TypeTable) (indent : Nat) :
    (items : Items) →
      Outlined (items.outline types indent) (items.emission types indent) items.yield
  | .nil => .plain (e := .empty) rfl rfl without_nil
  | .line mark rest => by
      have hmark : Without (.keyword .functionK) [mark.as .newline] := by simp
      exact (rest.outlined types indent).behind hmark
  | .stmt s rest => (s.outlined types indent).append (rest.outlined _ indent)

theorem Links.outlined (types : TypeTable) (indent : Nat) :
    (links : Links) →
      Outlined (links.outline types indent) (links.emission types indent) links.yield
  | .nil => .plain (e := .empty) rfl rfl without_nil
  | .cons lines other word test body rest => by
      have hwords : Without (.keyword .functionK) (lineYield lines ++
          other.as (.keyword .elseK) :: word.as (.keyword .ifK) :: test.yield) :=
        without_of_filter_opens rfl (by simp [opens, TokenKind.opensStatement])
      have hbody :=
        ((body.outlined types (indent + 1)).enclosed indent (test.head types "else if")).behind
          hwords
      have hyield : (Links.cons lines other word test body rest).yield =
          lineYield lines ++ other.as (.keyword .elseK) :: word.as (.keyword .ifK) :: test.yield ++
            body.yield ++ rest.yield := by
        simp only [Links.yield, List.append_assoc, List.cons_append]
      rw [hyield]
      exact hbody.append (rest.outlined _ indent)

theorem Other.outlined (types : TypeTable) (indent : Nat) :
    (other : Other) →
      Outlined (other.outline types indent) (other.emission types indent) other.yield
  | .none => .plain (e := .empty) rfl rfl without_nil
  | .some lines word body => by
      have hwords :
          Without (.keyword .functionK) (lineYield lines ++ [word.as (.keyword .elseK)]) :=
        without_of_filter_opens rfl (by simp [opens, TokenKind.opensStatement])
      have h := ((body.outlined types (indent + 1)).enclosed indent "else").behind hwords
      rwa [List.append_assoc] at h

end

theorem outlined (types : TypeTable) (p : Program) :
    Outlined (outline types p) (emission types p) (yield p) := by
  induction p generalizing types with
  | nil => exact .plain (e := .empty) rfl rfl without_nil
  | cons t p ih =>
      have htop : Outlined (t.outline types) (t.emission types) t.yield := by
        cases t with
        | line m => exact .plain (e := .empty) rfl rfl (by simp [Top.yield])
        | stray m => exact .plain (e := .remark _ _) rfl rfl (by simp [Top.yield])
        | stmt s => exact s.outlined types 1
      exact htop.append (ih _)

end Tree

/-! ## Runs -/

/-- The text of a function is its header, its lines and a brace. -/
theorem Tree.Body.text_eq (b : Body) :
    b.text = "int " ++ b.name ++ "(" ++ Text.joinWith ", " (b.params.map ("char* " ++ ·)) ++
      ") \x7b\n" ++ Text.concat b.lines ++ "\x7d\n\n" := by
  have hheader : Gen.functionHeader b.name b.params ++ " \x7b\n" = "int " ++ b.name ++ "(" ++
      Text.joinWith ", " (b.params.map ("char* " ++ ·)) ++ ") \x7b\n" :=
    String.append_assoc
  have hone (text : String) : Text.concat [text] = text := String.empty_append
  rw [Body.text, hheader, ← List.singleton_append, Text.concat_append, Text.concat_append, hone,
    hone, ← String.append_assoc]

/-- The functions of a run that succeeds come from one outline of its tokens. The
names are those behind the words for functions, in preorder. The functions are
as many, in postorder, so that those inside a function stand directly before it;
each is a header around the entries that lie directly in it. The main body has
the entries that lie in none. -/
theorem functions_follow_nesting {depth : Nat} {tokens : List Token} {report : Report}
    {debug : Bool} {s : State} (h : Gen.run depth (.ofTokens tokens report debug) = .ok () s) :
    ∃ (p : Program) (o : Outline), yield p = beforeEnd tokens ∧ Fits [] p ∧
      o = outline {} p ∧ o.Covers (beforeEnd tokens) ∧
      followers (.keyword .functionK) (beforeEnd tokens) =
        o.preorder.map (fun m => some (m.as .identifier)) ∧
      s.output.names.toList = o.preorder.map Mark.value ∧
      s.output.functions.size = s.output.names.size ∧
      s.output.functions.toList = o.postorder.map (fun b =>
        "int " ++ b.name ++ "(" ++ Text.joinWith ", " (b.params.map ("char* " ++ ·)) ++
          ") \x7b\n" ++ Text.concat b.lines ++ "\x7d\n\n") ∧
      (∀ name params inner, o.Holds name params inner → ∃ before behind, o.postorder =
        before ++ (inner.postorder ++ ⟨name.value, params.names, inner.direct⟩ :: behind)) ∧
      s.output.main.toList = o.direct := by
  obtain ⟨p, c, hp, hw⟩ := Gen.of_run_ofTokens h
  have ho := outlined {} p
  have hcovers : (outline {} p).Covers (beforeEnd tokens) := hp.yield_eq ▸ ho.covers
  have hnames := hw.names.trans ho.names
  have hfunctions := hw.functions.trans ho.functions
  refine ⟨p, outline {} p, hp.yield_eq, hp.fits_nil, rfl, hcovers, hcovers.followers_eq, hnames, ?_,
    ?_, fun _ _ _ hh => hh.postorder, hw.main.trans ho.lines⟩
  · rw [← Array.length_toList, ← Array.length_toList, hnames, hfunctions, List.length_map,
      List.length_map, Outline.length_postorder]
  · rw [hfunctions]
    exact List.map_congr_left fun b _ => b.text_eq

/-- A function in a branch of a function, and one in a loop behind them. -/
def nestedSource : String :=
  "function f(a) \x7b\nif (a) \x7b\nfunction g(b, c) \x7b\nreturn b\n\x7d\ng(a, 1)\n\x7d\n\x7d\n" ++
    "while (1) \x7b\nfunction h() \x7b\n\x7d\nf(2)\n\x7d\n"

abbrev nestedRun : EStateM.Result Failure State Unit :=
  Gen.run 5 (.ofTokens (tokenize nestedSource) (.ofSource nestedSource) true)

theorem functions_follow_nesting_nested :
    ∃ s, nestedRun = .ok () s ∧ s.output.names.toList = ["f", "g", "h"] ∧
      s.output.functions.toList = ["int g(char* b, char* c) \x7b\n    return b;\n\x7d\n\n",
        "int f(char* a) \x7b\n    if (a) \x7b\n        g(a, 1);\n    \x7d\n\x7d\n\n",
        "int h() \x7b\n\x7d\n\n"] ∧
      ∃ o : Outline, o.Covers (beforeEnd (tokenize nestedSource)) ∧
        s.output.names.toList = o.preorder.map Mark.value ∧ s.output.main.toList = o.direct := by
  have hok : succeeds nestedRun = true ∧
      (ending nestedRun).output.names.toList = ["f", "g", "h"] ∧
      (ending nestedRun).output.functions.toList =
        ["int g(char* b, char* c) \x7b\n    return b;\n\x7d\n\n",
          "int f(char* a) \x7b\n    if (a) \x7b\n        g(a, 1);\n    \x7d\n\x7d\n\n",
          "int h() \x7b\n\x7d\n\n"] := by
    decide +kernel
  obtain ⟨_, s, hrun⟩ := exists_of_succeeds hok.1
  rw [hrun] at hok
  obtain ⟨-, o, -, -, -, hcovers, -, hpreorder, -, -, -, hmain⟩ := functions_follow_nesting hrun
  exact ⟨s, hrun, hok.2.1, hok.2.2, o, hcovers, hpreorder, hmain⟩

end StageZero
