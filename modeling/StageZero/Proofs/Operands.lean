import StageZero.Proofs.Diagnoses
import StageZero.Proofs.Kinds
import StageZero.Proofs.Printing
import StageZero.Proofs.Progress

/-!
# Expressions keep their operands

The C of an expression is pasted together from text at every level, and in a chain
of additions the parts are taken out and put together in another way. Here it is
scanned again: its parentheses are balanced, and the integers, the strings and the
names in it are those that the expression was read from, in their order. Calls of
the support library are all that is added.

`Spells` says which tokens a piece of C is made of, and it says so in front of
anything that starts with a space, a parenthesis or a comma, since nothing else is
ever written behind a piece. That is what lets pieces be put together: `Shows` goes
through spaces and commas, through parentheses and through calls, and from there
through the parts of an expression and the folding of a chain.
-/

namespace StageZero

open StageZero.Tree

/-! ## Operands -/

/-- What an expression computes with: integers, strings, and names that are not
those of the support library. -/
def isOperand (c : TokenKind × String) : Bool :=
  match c.1 with
  | .integer | .string => true
  | .identifier => !"__wear_".toList.isPrefixOf c.2.toList
  | _ => false

/-- The operands among some tokens, in their order. -/
def operandsAmong (ts : List Token) : List (TokenKind × String) :=
  (ts.map Token.content).filter isOperand

/-- The operands in a piece of C. -/
def operandsIn (code : String) : List (TokenKind × String) :=
  (contents code.toList).filter isOperand

@[simp] theorem operandsAmong_append (ts us : List Token) :
    operandsAmong (ts ++ us) = operandsAmong ts ++ operandsAmong us := by
  simp [operandsAmong]

theorem operandsAmong_cons (t : Token) (ts : List Token) :
    operandsAmong (t :: ts) = operandsAmong [t] ++ operandsAmong ts :=
  operandsAmong_append [t] ts

/-- Tokens in parentheses have the operands that they have without them. -/
theorem operandsAmong_enclosed (opening closing : Mark) (ts : List Token) :
    operandsAmong (opening.as .lparen :: (ts ++ [closing.as .rparen])) = operandsAmong ts := by
  rw [operandsAmong_cons, operandsAmong_append]
  exact List.append_nil _

/-! ## Pieces of C -/

/-- A piece of C is made of these tokens, whatever follows that no token goes on
into. -/
def Spells (code : String) (ts : List Token) : Prop :=
  ∀ rest, Parted rest → contents (code.toList ++ rest) = ts.map Token.content ++ contents rest

/-- A piece of C with balanced parentheses, and the operands in it. -/
def Shows (code : String) (ops : List (TokenKind × String)) : Prop :=
  ∃ ts, Spells code ts ∧ Balanced ts ∧ operandsAmong ts = ops

theorem contents_nil : contents [] = [] := by
  rw [contents, lexemes]
  rfl

theorem contents_symbol {c : Char} {kind : TokenKind} (hk : symbolKind? [c] = some kind)
    (hc : c ∉ ['=', '!', '<', '>', '/']) (rest : List Char) :
    contents (c :: rest) = (kind, String.ofList [c]) :: contents rest := by
  have hp : ¬ StartsPair c rest := fun hp => hc (by
    have := hp.1
    simp_all)
  exact (Scans.symbol hp (fun hs => hc (by simp [hs.1])) hk).contents_append

theorem parted_nil : Parted [] := by simp [Parted]

theorem parted_cons {c : Char} (hc : c ∈ [' ', '(', ')', ',']) (rest : List Char) :
    Parted (c :: rest) := by
  simpa [Parted] using hc

namespace Spells

variable {a b : String} {ts us : List Token}

theorem contents_eq (h : Spells a ts) : contents a.toList = ts.map Token.content := by
  have := h [] parted_nil
  rwa [List.append_nil, contents_nil, List.append_nil] at this

theorem append (ha : Spells a ts) (hb : Spells b us)
    (hp : ∀ rest, Parted rest → Parted (b.toList ++ rest)) : Spells (a ++ b) (ts ++ us) := by
  intro rest hrest
  rw [String.toList_append, List.append_assoc, ha _ (hp rest hrest), hb rest hrest,
    List.map_append, List.append_assoc]

theorem empty : Spells "" [] := fun _ _ => rfl

/-- A token that can be written is spelled by what is written. -/
theorem token {t : Token} (h : t.kind.admits t.value = true) : Spells t.written [t] :=
  fun _ hrest => (scans_written h hrest).contents_append

theorem enclosed (h : Spells a ts) :
    Spells ("(" ++ a ++ ")")
      (Mark.as ⟨"(", .start⟩ .lparen :: (ts ++ [Mark.as ⟨")", .start⟩ .rparen])) := by
  intro rest hrest
  have htext : ("(" ++ a ++ ")").toList ++ rest = '(' :: (a.toList ++ ')' :: rest) := by simp
  rw [htext, contents_symbol rfl (by decide), h _ (parted_cons (by decide) rest),
    contents_symbol rfl (by decide)]
  simp [Token.content, Mark.as]

end Spells

/-- A text between two pieces of C. -/
structure Divides (divider : String) (ts : List Token) : Prop where
  parted : ∀ rest, Parted (divider.toList ++ rest)
  contents_eq : ∀ rest, contents (divider.toList ++ rest) = ts.map Token.content ++ contents rest
  balanced : Balanced ts
  operands : operandsAmong ts = []

theorem divides_space : Divides " " [] where
  parted := parted_cons (by decide)
  contents_eq := contents_space
  balanced := .nil
  operands := rfl

theorem divides_comma : Divides ", " [⟨.comma, ",", .start⟩] where
  parted rest := parted_cons (by decide) _
  contents_eq rest := by
    show contents (',' :: ' ' :: rest) = _
    rw [contents_symbol rfl (by decide), contents_space]
    rfl
  balanced := .singleton rfl
  operands := rfl

theorem divides_plus : Divides " + " [⟨.operator .plus, "+", .start⟩] where
  parted rest := parted_cons (by decide) _
  contents_eq rest := by
    show contents (' ' :: '+' :: ' ' :: rest) = _
    rw [contents_space, contents_symbol rfl (by decide), contents_space]
    rfl
  balanced := .singleton rfl
  operands := rfl

namespace Shows

variable {a b : String} {xs ys : List (TokenKind × String)}

theorem operandsIn_eq (h : Shows a xs) : operandsIn a = xs := by
  obtain ⟨ts, hts, -, rfl⟩ := h
  rw [operandsIn, hts.contents_eq]
  rfl

theorem empty : Shows "" [] := ⟨[], .empty, .nil, rfl⟩

theorem token {t : Token} (h : t.kind.admits t.value = true) (hrise : rise t = 0) :
    Shows t.written (operandsAmong [t]) :=
  ⟨[t], .token h, .singleton hrise, rfl⟩

theorem enclosed (h : Shows a xs) : Shows ("(" ++ a ++ ")") xs := by
  obtain ⟨ts, hts, hbalanced, rfl⟩ := h
  exact ⟨_, hts.enclosed, hbalanced.enclosed _ _, operandsAmong_enclosed _ _ ts⟩

/-- A piece of C right before another in parentheses. -/
theorem called (ha : Shows a xs) (hb : Shows b ys) : Shows (a ++ "(" ++ b ++ ")") (xs ++ ys) := by
  obtain ⟨ts, hts, hta, rfl⟩ := ha
  obtain ⟨us, hus, hub, rfl⟩ := hb.enclosed
  have hcode : a ++ "(" ++ b ++ ")" = a ++ ("(" ++ b ++ ")") := by
    simp only [String.append_assoc]
  rw [hcode]
  refine ⟨ts ++ us, hts.append hus fun rest _ => ?_, hta.append hub, operandsAmong_append ts us⟩
  have htext : ("(" ++ b ++ ")").toList ++ rest = '(' :: (b.toList ++ ')' :: rest) := by simp
  rw [htext]
  exact parted_cons (by decide) _

theorem divided {divider : String} {ds : List Token} (ha : Shows a xs) (hd : Divides divider ds)
    (hb : Shows b ys) : Shows (a ++ divider ++ b) (xs ++ ys) := by
  obtain ⟨ts, hts, hta, rfl⟩ := ha
  obtain ⟨us, hus, hub, rfl⟩ := hb
  refine ⟨ts ++ (ds ++ us), fun rest hrest => ?_, hta.append (hd.balanced.append hub), ?_⟩
  · rw [String.toList_append, String.toList_append, List.append_assoc, List.append_assoc,
      hts _ (hd.parted _), hd.contents_eq, hus rest hrest]
    simp
  · rw [operandsAmong_append, operandsAmong_append, hd.operands, List.nil_append]

end Shows

theorem Support.concatenations_subset : concatenations ⊆ routines := by
  simp [concatenations, routines]

/-- The names of the support library are no operands. -/
theorem shows_routine {r : Routine} (h : r ∈ Support.routines) : Shows r.name [] := by
  have hrows : ∀ r ∈ Support.routines,
      TokenKind.identifier.admits r.name = true ∧ isOperand (.identifier, r.name) = false := by
    decide +kernel
  obtain ⟨hadmits, hoperand⟩ := hrows r h
  have hshows := Shows.token (t := ⟨.identifier, r.name, .start⟩) hadmits rfl
  rwa [show operandsAmong [⟨.identifier, r.name, .start⟩] = [] by
    simp [operandsAmong, Token.content, hoperand]] at hshows

theorem shows_operator (o : Operator) : Shows o.text [] := by
  have hadmits : (TokenKind.operator o).admits o.text = true := by cases o <;> decide +kernel
  exact Shows.token (t := ⟨.operator o, o.text, .start⟩) hadmits rfl

/-! ## Pieces one after the other -/

/-- Pieces of C with the operands in all of them. -/
structure ShowAll (codes : List String) (ops : List (TokenKind × String)) : Prop where
  each : ∀ code ∈ codes, Shows code (operandsIn code)
  all : codes.flatMap operandsIn = ops

namespace ShowAll

variable {code : String} {codes : List String} {xs ys ops : List (TokenKind × String)}

theorem nil : ShowAll [] [] := ⟨by simp, rfl⟩

theorem cons (h : Shows code xs) (hs : ShowAll codes ys) : ShowAll (code :: codes) (xs ++ ys) := by
  refine ⟨List.forall_mem_cons.2 ⟨?_, hs.each⟩, ?_⟩
  · rwa [h.operandsIn_eq]
  · rw [List.flatMap_cons, h.operandsIn_eq, hs.all]

theorem uncons (h : ShowAll (code :: codes) ops) :
    Shows code (operandsIn code) ∧ ShowAll codes (codes.flatMap operandsIn) ∧
      ops = operandsIn code ++ codes.flatMap operandsIn := by
  obtain ⟨hcode, hcodes⟩ := List.forall_mem_cons.1 h.each
  exact ⟨hcode, ⟨hcodes, rfl⟩, h.all.symm⟩

/-- Pieces written with a divider between each two. -/
theorem joined {divider : String} {ds : List Token} (hd : Divides divider ds)
    (h : ShowAll codes ops) : Shows (Text.joinWith divider codes) ops := by
  induction codes generalizing ops with
  | nil =>
      obtain rfl : [] = ops := h.all
      exact .empty
  | cons code codes ih =>
      obtain ⟨hcode, hcodes, rfl⟩ := h.uncons
      cases codes with
      | nil => rwa [List.flatMap_nil, List.append_nil]
      | cons next codes => exact hcode.divided hd (ih hcodes)

/-- A call of a routine adds nothing to its arguments. -/
theorem call {r : Routine} (hr : r ∈ Support.routines) (h : ShowAll codes ops) :
    Shows (r.call codes) ops :=
  (shows_routine hr).called (h.joined divides_comma)

end ShowAll

/-! ## Parts put together -/

theorem mem_of_mem_splitOnP {α : Type} {p : α → Bool} {as run : List α} {a : α}
    (hrun : run ∈ as.splitOnP p) (ha : a ∈ run) : a ∈ as := by
  induction as generalizing run with
  | nil =>
      obtain rfl := List.mem_singleton.1 hrun
      cases ha
  | cons b as ih =>
      rw [List.splitOnP_cons_eq_if_modifyHead] at hrun
      split at hrun
      · rcases List.mem_cons.1 hrun with rfl | hrun
        · cases ha
        · exact List.mem_cons_of_mem _ (ih hrun ha)
      · obtain ⟨first, runs, hruns⟩ := List.exists_cons_of_ne_nil (List.splitOnP_ne_nil p as)
        rw [hruns] at hrun ih
        rcases List.mem_cons.1 hrun with rfl | hrun
        · rcases List.mem_cons.1 ha with rfl | ha
          · exact List.mem_cons_self
          · exact List.mem_cons_of_mem _ (ih List.mem_cons_self ha)
        · exact List.mem_cons_of_mem _ (ih (List.mem_cons_of_mem _ hrun) ha)

namespace Fragment

theorem splitAtPlus_eq_splitOnP (parts : List Fragment) :
    splitAtPlus parts = parts.splitOnP isPlus := by
  induction parts with
  | nil => rfl
  | cons part rest ih =>
      obtain ⟨run, runs, hruns⟩ := List.exists_cons_of_ne_nil (List.splitOnP_ne_nil isPlus rest)
      rw [List.splitOnP_cons_eq_if_modifyHead, splitAtPlus, ih, hruns]
      rfl

theorem flatMap_filter_isEmpty {α : Type} (g : Fragment → List α) (runs : List (List Fragment)) :
    ((runs.filter fun run => !run.isEmpty).flatMap fun run => run.flatMap g) =
      runs.flatMap fun run => run.flatMap g := by
  induction runs with
  | nil => rfl
  | cons run runs ih => cases run <;> simp [ih]

/-- The plus signs between the runs show nothing. -/
theorem flatMap_splitAtPlus (parts : List Fragment) :
    ((splitAtPlus parts).flatMap fun run => run.flatMap fun f => operandsIn f.code) =
      parts.flatMap fun f => operandsIn f.code := by
  fun_induction splitAtPlus parts with
  | case1 => rfl
  | case2 sign rest hsign ih =>
      have hplus : operandsIn sign.code = [] := by
        rw [eq_sign_of_isPlus hsign]
        exact (shows_operator .plus).operandsIn_eq
      rw [List.flatMap_cons, List.flatMap_nil, List.nil_append, ih, List.flatMap_cons, hplus,
        List.nil_append]
  | case3 p rest _ hnil => exact absurd hnil (splitAtPlus_ne_nil rest)
  | case4 p rest _ first runs hruns ih =>
      rw [hruns, List.flatMap_cons] at ih
      rw [List.flatMap_cons, List.flatMap_cons, List.flatMap_cons, List.append_assoc, ih]

variable {parts : List Fragment} {ops : List (TokenKind × String)}

theorem shows_join (h : ShowAll (parts.map (·.code)) ops) : Shows (join parts).code ops :=
  h.joined divides_space

/-- The operands of a chain show what its parts show. -/
theorem showAll_operands (h : ShowAll (parts.map (·.code)) ops) :
    ShowAll ((operands parts).map (·.code)) ops := by
  have hrun : ∀ run ∈ splitAtPlus parts,
      Shows (join run).code (run.flatMap fun f => operandsIn f.code) := by
    intro run hmem
    refine shows_join ⟨fun code hcode => ?_, by rw [List.flatMap_map]⟩
    obtain ⟨f, hf, rfl⟩ := List.mem_map.1 hcode
    rw [splitAtPlus_eq_splitOnP] at hmem
    exact h.each _ (List.mem_map_of_mem (mem_of_mem_splitOnP hmem hf))
  constructor
  · intro code hcode
    obtain ⟨o, ho, rfl⟩ := List.mem_map.1 hcode
    obtain ⟨run, hmem, rfl⟩ := List.mem_map.1 ho
    have hshows := hrun run (List.mem_of_mem_filter hmem)
    rwa [hshows.operandsIn_eq]
  · calc ((operands parts).map (·.code)).flatMap operandsIn
        = ((splitAtPlus parts).filter fun run => !run.isEmpty).flatMap fun run =>
            operandsIn (join run).code := by
          simp only [operands, List.flatMap_map]
      _ = ((splitAtPlus parts).filter fun run => !run.isEmpty).flatMap fun run =>
            run.flatMap fun f => operandsIn f.code :=
          List.flatMap_congr fun run hmem =>
            (hrun run (List.mem_of_mem_filter hmem)).operandsIn_eq
      _ = parts.flatMap fun f => operandsIn f.code := by
          rw [flatMap_filter_isEmpty, flatMap_splitAtPlus]
      _ = ops := by
          rw [← h.all, List.flatMap_map]

theorem shows_add {a b : Fragment} {xs ys : List (TokenKind × String)} (ha : Shows a.code xs)
    (hb : Shows b.code ys) : Shows (add a b).code (xs ++ ys) := by
  unfold add
  cases hr : concatRoutine? a.kind b.kind with
  | none =>
      have hsum := (ha.divided divides_plus hb).enclosed
      rwa [← String.append_assoc, ← String.append_assoc] at hsum
  | some r =>
      have hargs := (ShowAll.nil.cons hb).cons ha
      rw [List.append_nil] at hargs
      exact hargs.call (Support.concatenations_subset (Chain.of_concatRoutine? hr).1)

theorem shows_foldl_add {first : Fragment} {rest : List Fragment}
    (h : ShowAll ((first :: rest).map (·.code)) ops) : Shows (rest.foldl add first).code ops := by
  induction rest generalizing first ops with
  | nil =>
      obtain ⟨hfirst, -, rfl⟩ := h.uncons
      rwa [List.map_nil, List.flatMap_nil, List.append_nil]
  | cons next rest ih =>
      obtain ⟨hfirst, hrest, rfl⟩ := h.uncons
      obtain ⟨hnext, hrest, hops⟩ := hrest.uncons
      rw [hops, ← List.append_assoc]
      exact ih (hrest.cons (shows_add hfirst hnext))

/-- An expression shows what its parts show, whichever way they are put together. -/
theorem shows_ofParts (h : ShowAll (parts.map (·.code)) ops) : Shows (ofParts parts).code ops := by
  unfold ofParts
  split
  · next hchain =>
      simp only [Bool.and_eq_true] at hchain
      obtain ⟨part, hpart, htext⟩ := List.any_eq_true.1 hchain.1.1
      have hos := exists_text_operand ⟨part, hpart, by simpa [isText] using htext⟩
      have hall := showAll_operands h
      cases hcons : operands parts with
      | nil =>
          rw [hcons] at hos
          obtain ⟨o, ho, -⟩ := hos
          cases ho
      | cons first rest =>
          rw [hcons] at hos hall
          rw [concatenate_eq hcons hos]
          exact shows_foldl_add hall
  · exact shows_join h

end Fragment

/-! ## Expressions -/

namespace Tree

theorem mem_routines_routine (word : Builtin) : word.routine ∈ Support.routines := by
  cases word <;> simp [Builtin.routine, Support.routines]

mutual

/-- The C of a part shows the operands that the part was read from. -/
theorem Part.shows (types : TypeTable) :
    (p : Part) → (∀ t ∈ p.yield, t.kind.admits t.value = true) →
      Shows (p.fragment types).code (operandsAmong p.yield)
  | .integer digits, h => .token (t := digits.as .integer) (h _ List.mem_cons_self) rfl
  | .string text, h => .token (t := text.as .string) (h _ List.mem_cons_self) rfl
  | .name name, h => .token (t := name.as .identifier) (h _ List.mem_cons_self) rfl
  | .sign o _, _ => shows_operator o
  | .group opening inner closing, h => by
      rw [Part.yield, operandsAmong_enclosed]
      refine (Fragment.shows_ofParts (inner.showAll types fun t ht => h t ?_)).enclosed
      simp [Part.yield, ht]
  | .call name opening args closing, h => by
      rw [Part.yield, operandsAmong_cons, operandsAmong_enclosed]
      have hname := Shows.token (t := name.as .identifier) (h _ List.mem_cons_self) rfl
      refine hname.called ((args.showAll types fun t ht => h t ?_).joined divides_comma)
      simp [Part.yield, ht]
  | .builtin word mark opening args closing, h => by
      rw [Part.yield, operandsAmong_cons, operandsAmong_enclosed]
      refine (args.showAll types fun t ht => h t ?_).call (mem_routines_routine word)
      simp [Part.yield, ht]

theorem Expr.showAll (types : TypeTable) :
    (e : Expr) → (∀ t ∈ e.yield, t.kind.admits t.value = true) →
      ShowAll ((e.fragments types).map (·.code)) (operandsAmong e.yield)
  | .nil, _ => .nil
  | .cons head tail, h => by
      rw [Expr.yield, operandsAmong_append]
      obtain ⟨hhead, htail⟩ := List.forall_mem_append.1 h
      exact (tail.showAll types htail).cons (head.shows types hhead)

theorem Args.showAll (types : TypeTable) {n : Nat} :
    (a : Args n) → (∀ t ∈ a.yield, t.kind.admits t.value = true) →
      ShowAll (a.codes types) (operandsAmong a.yield)
  | .none, _ => .nil
  | .some first more, h => by
      rw [Args.yield, operandsAmong_append]
      obtain ⟨hfirst, hmore⟩ := List.forall_mem_append.1 h
      exact (more.showAll types hmore).cons (Fragment.shows_ofParts (first.showAll types hfirst))

theorem More.showAll (types : TypeTable) {n : Nat} :
    (m : More n) → (∀ t ∈ m.yield, t.kind.admits t.value = true) →
      ShowAll (m.codes types) (operandsAmong m.yield)
  | .nil, _ => .nil
  | .cons comma arg rest, h => by
      have hcomma : operandsAmong [comma.as .comma] = [] := rfl
      rw [More.yield, operandsAmong_cons, hcomma, List.nil_append, operandsAmong_append]
      obtain ⟨-, h⟩ := List.forall_mem_cons.1 h
      obtain ⟨harg, hrest⟩ := List.forall_mem_append.1 h
      exact (rest.showAll types hrest).cons (Fragment.shows_ofParts (arg.showAll types harg))

end

end Tree

/-- Parentheses are a matter of kinds. -/
theorem height_eq_of_kinds {ts us : List Token} (h : ts.map Token.kind = us.map Token.kind) :
    height ts = height us := by
  induction ts generalizing us with
  | nil =>
      obtain rfl := List.map_eq_nil_iff.1 h.symm
      rfl
  | cons t ts ih =>
      obtain ⟨u, us, rfl, hkind, hkinds⟩ := List.map_eq_cons_iff.1 h.symm
      rw [height_cons, height_cons, ih hkinds.symm, rise, rise, hkind]

theorem Tree.Balanced.of_kinds {ts us : List Token} (hb : Balanced ts)
    (h : ts.map Token.kind = us.map Token.kind) : Balanced us := by
  refine ⟨(height_eq_of_kinds h).symm.trans hb.total, ?_⟩
  rintro before after rfl
  rw [List.map_append] at h
  obtain ⟨before', after', rfl, hbefore, -⟩ := List.map_eq_append_iff.1 h
  rw [← height_eq_of_kinds hbefore]
  exact hb.prefixes before' after' rfl

/-- What a piece of C shows is found in its tokens. -/
theorem Shows.tokenize {code : String} {ops : List (TokenKind × String)} (h : Shows code ops) :
    Balanced (tokenize code) ∧ operandsAmong (tokenize code) = ops := by
  obtain ⟨ts, hts, hb, rfl⟩ := h
  have hcontent : (StageZero.tokenize code).map Token.content =
      (ts ++ [Token.eof .start]).map Token.content := by
    rw [content_tokenize, hts.contents_eq, List.map_append]
    rfl
  constructor
  · have hend : Balanced [Token.eof .start] := .singleton rfl
    refine (hb.append hend).of_kinds ?_
    have hkinds := congrArg (List.map Prod.fst) hcontent
    rw [List.map_map, List.map_map] at hkinds
    exact hkinds.symm
  · rw [operandsAmong, hcontent]
    exact (operandsAmong_append ts [.eof .start]).trans (List.append_nil _)

/-- The C of an expression that is read somewhere in a source has balanced
parentheses, and the integers, strings and names in it, those of the support library
apart, are the ones among the tokens that were read, in their order; but no string
among these tokens may end in a backslash. -/
theorem operands_are_kept {source : String} {depth : Nat} {s s' : State} {f : Fragment}
    (hs : s.Over (tokenize source)) (h : Gen.expression depth s = .ok f s') :
    ∃ ts, s.cursor.Moves ts s'.cursor ∧
      ((∀ t ∈ ts, t.kind = .string → t.value.toList.getLast? ≠ some '\\') →
        Balanced (tokenize f.code) ∧ operandsAmong (tokenize f.code) = operandsAmong ts) := by
  have hquiet : Gen.expression depth s.quiet = .ok f s'.quiet := by
    rw [Gen.silent_expression depth s, h]
    rfl
  obtain ⟨e, c, hm, -, -, rfl, hs'⟩ := Gen.of_expression_ok (s := s.quiet) rfl hs.isSealed hquiet
  have hcursor : s'.cursor = c := congrArg (fun s : State => s.cursor) hs'
  refine ⟨e.yield, hcursor ▸ hm, fun hstrings => ?_⟩
  refine (Fragment.shows_ofParts (e.showAll s.types fun t ht => ?_)).tokenize
  -- every token of the expression is a token of the source
  have hmem : t ∈ tokenize source := by
    have hrest : t ∈ s.cursor.rest := by
      rw [show s.cursor.rest = _ from hm.rest]
      exact List.mem_append_left _ ht
    rw [← tokens_tokenize, ← show s.cursor.tokens = _ from hs]
    exact List.mem_append_right _ hrest
  have hne : t.kind ≠ .eof := e.without_eof t ht
  have htiled : Tiled [] source.toList (tokenize source) := tiled_lexemes [] source.toList
  obtain ⟨-, lexeme, after, -, -, -, hscans⟩ := htiled.owned t hmem hne
  exact hscans.admits (hstrings t ht)

/-- A chain with a call, a builtin and a group in it, and with quotes and parentheses
in its strings. -/
def pastedSource : String :=
  "\"a(\" + f(x, \"\\\")\") + strlen(\"b\") * 2 + (1 - __wear_y)"

/-- What becomes of it. -/
def pastedCode : String :=
  "__wear_concat_str_int(__wear_concat_str_int(__wear_concat_str_int(\"a(\", f(x, \"\\\")\")), " ++
    "__wear_strlen(\"b\") * 2), (1 - __wear_y))"

theorem operands_are_kept_pasted :
    ∃ f s', Gen.expression 3 (.ofTokens (tokenize pastedSource) (.ofSource pastedSource) true) =
        .ok f s' ∧
      f.code = pastedCode ∧
      ∃ ts, (Cursor.ofTokens (tokenize pastedSource)).Moves ts s'.cursor ∧
        Balanced (tokenize f.code) ∧ operandsAmong (tokenize f.code) = operandsAmong ts := by
  have hok : (match Gen.expression 3
        (.ofTokens (tokenize pastedSource) (.ofSource pastedSource) true) with
      | .ok f _ => decide (f.code = pastedCode)
      | .error _ _ => false) = true := by
    decide +kernel
  have hstrings : ∀ t ∈ tokenize pastedSource, t.kind = .string →
      t.value.toList.getLast? ≠ some '\\' := by
    decide +kernel
  cases hrun : Gen.expression 3
      (.ofTokens (tokenize pastedSource) (.ofSource pastedSource) true) with
  | error e s' =>
      rw [hrun] at hok
      cases hok
  | ok f s' =>
      rw [hrun] at hok
      have hover : (State.ofTokens (tokenize pastedSource) (.ofSource pastedSource) true).Over
          (tokenize pastedSource) := rfl
      obtain ⟨ts, hm, hkept⟩ := operands_are_kept hover hrun
      refine ⟨f, s', rfl, of_decide_eq_true hok, ts, hm, hkept fun t ht => hstrings t ?_⟩
      rw [← rest_tokenize, show (Cursor.ofTokens (tokenize pastedSource)).rest = _ from hm.rest]
      exact List.mem_append_left _ ht

end StageZero
