import StageZero.Path
import StageZero.Proofs.Marks

/-!
# Executables beside their C files

The executable of a C file stands in the same directory under another name. That is
said here without cutting anything: a path is a directory and a name, and a name has
an extension if there is a dot in it behind which there is no other, and something
else than dots before it. The dots that a name begins with are no part of any
extension because of that last condition, and the dots of a directory are not in the
name.

So there are two cases. A name with an extension loses it, and what is left is not
empty. A name without one is made longer. Either way the C compiler is not told to
write to the file it reads, nor to a directory.
-/

namespace StageZero.Path

/-- A path is a name in a directory. The directory is empty or ends in a slash, and
there is no slash in the name. -/
structure Names (path directory name : List Char) : Prop where
  eq : path = directory ++ name
  closed : ∀ c ∈ directory.getLast?, c = '/'
  plain : '/' ∉ name

/-- A name is a stem with an extension: they are divided by the last dot of the name,
before which there is something else than dots. -/
structure Extended (name stem extension : List Char) : Prop where
  eq : name = stem ++ '.' :: extension
  last : '.' ∉ extension
  visible : ∃ c ∈ stem, c ≠ '.'

/-! ## Cutting at the last slash and at the last dot -/

theorem names_splitLast (path : List Char) :
    Names path (splitLast path).1 (splitLast path).2 := by
  refine ⟨List.rdropWhile_append_rtakeWhile.symm, ?_, Text.mark_notMem_tail '/' path⟩
  intro c hc
  rw [splitLast, List.getLast?_reverse] at hc
  rcases Text.last_mark_cases '/' path with ⟨hdrop, -⟩ | ⟨left, hdrop, -⟩
  · rw [hdrop] at hc
    cases hc
  · rw [hdrop] at hc
    cases hc
    rfl

/-- A text has no dot, or it is cut before the last one. -/
theorem splitDot_cases (text : List Char) :
    ('.' ∉ text ∧ splitDot text = (text, [])) ∨
      ∃ stem extension, text = stem ++ '.' :: extension ∧ '.' ∉ extension ∧
        splitDot text = (stem, '.' :: extension) := by
  have hlast := Text.mark_notMem_tail '.' text
  rcases Text.last_mark_cases '.' text with ⟨hdrop, heq⟩ | ⟨stem, hdrop, heq⟩
  · rw [← heq] at hlast
    exact .inl ⟨hlast, by rw [splitDot, hdrop]⟩
  · refine .inr ⟨stem, _, heq, hlast, ?_⟩
    rw [splitDot, hdrop]
    simp only [List.reverse_reverse]
    rfl

/-! ## Extensions -/

section

variable {dots text stem extension : List Char}

/-- The dots that a name begins with are part of its stem. -/
theorem extended_of_dots (heq : text = stem ++ '.' :: extension) (hlast : '.' ∉ extension)
    (hhead : ∀ c ∈ text.head?, c ≠ '.') : Extended (dots ++ text) (dots ++ stem) extension := by
  refine ⟨by rw [heq, List.append_assoc], hlast, ?_⟩
  rw [heq] at hhead
  cases stem with
  | nil => exact absurd rfl (hhead '.' rfl)
  | cons c stem => exact ⟨c, by simp, hhead c rfl⟩

/-- They start no extension themselves. -/
theorem not_extended_of_dots (hdots : ∀ c ∈ dots, c = '.') (hplain : '.' ∉ text) :
    ¬ Extended (dots ++ text) stem extension := by
  intro h
  obtain ⟨c, hc, hne⟩ := h.visible
  rcases List.append_eq_append_iff.1 h.eq with ⟨middle, -, htext⟩ | ⟨middle, hstem, -⟩
  · exact hplain (by rw [htext]; simp)
  · exact hne (hdots c (by rw [hstem]; exact List.mem_append_left _ hc))

end

/-- A path is cut at the extension of its name, if its name has one. -/
theorem splitExtension_cases (path : List Char) :
    ∃ directory name, Names path directory name ∧
      ((∃ stem extension, Extended name stem extension ∧
          splitExtension path = (directory ++ stem, '.' :: extension)) ∨
        ((∀ stem extension, ¬ Extended name stem extension) ∧
          splitExtension path = (path, []))) := by
  have hnames := names_splitLast path
  cases hlast : splitLast path with
  | mk directory name =>
      rw [hlast] at hnames
      refine ⟨directory, name, hnames, ?_⟩
      let dots := name.takeWhile (· = '.')
      let text := name.dropWhile (· = '.')
      have hname : dots ++ text = name := List.takeWhile_append_dropWhile
      have hdots : ∀ c ∈ dots, c = '.' := by
        intro c hc
        simpa using List.mem_takeWhile_imp hc
      have hhead : ∀ c ∈ text.head?, c ≠ '.' := by
        intro c hc
        have hnot := List.head?_dropWhile_not (· = '.') name
        rw [Option.mem_def.1 hc] at hnot
        simpa using hnot
      have hsplit : splitExtension path =
          (directory ++ dots ++ (splitDot text).1, (splitDot text).2) := by
        unfold splitExtension
        rw [hlast]
      rcases splitDot_cases text with ⟨hplain, hdot⟩ | ⟨stem, extension, heq, hext, hdot⟩
      · refine .inr ⟨?_, ?_⟩
        · intro stem extension
          rw [← hname]
          exact not_extended_of_dots hdots hplain
        · rw [hsplit, hdot, hnames.eq, ← hname, List.append_assoc]
      · refine .inl ⟨dots ++ stem, extension, ?_, ?_⟩
        · have hextended : Extended (dots ++ text) (dots ++ stem) extension :=
            extended_of_dots heq hext hhead
          rwa [hname] at hextended
        · rw [hsplit, hdot, List.append_assoc]

/-! ## Executables -/

namespace Names

variable {path directory name stem extension ending : List Char}

theorem shorten (h : Names path directory name) (hname : Extended name stem extension) :
    Names (directory ++ stem) directory stem := by
  refine ⟨rfl, h.closed, ?_⟩
  intro hmem
  exact h.plain (by rw [hname.eq]; exact List.mem_append_left _ hmem)

theorem lengthen (h : Names path directory name) (hending : '/' ∉ ending) :
    Names (path ++ ending) directory (name ++ ending) := by
  refine ⟨by rw [h.eq, List.append_assoc], h.closed, ?_⟩
  intro hmem
  rcases List.mem_append.1 hmem with hmem | hmem
  · exact h.plain hmem
  · exact hending hmem

end Names

section

variable {path : String}

theorem toList_executable_of_extension {stem extension : List Char}
    (h : splitExtension path.toList = (stem, '.' :: extension)) :
    (executable path).toList = stem := by
  simp [executable, h]

theorem toList_executable_of_none (h : splitExtension path.toList = (path.toList, [])) :
    (executable path).toList = path.toList ++ ".out".toList := by
  simp [executable, h]

theorem executable_ne_of_length (h : (executable path).toList.length ≠ path.toList.length) :
    executable path ≠ path := by
  intro heq
  rw [heq] at h
  exact h rfl

end

/-- A path and the executable that is built from it are two different names in one
directory. The name of the executable is not empty: it is the name of the C file
without its extension, or with a new one at its end if there was none. -/
theorem executable_stands_beside (path : String) :
    executable path ≠ path ∧
      ∃ directory name name', Names path.toList directory name ∧
        Names (executable path).toList directory name' ∧ name' ≠ [] ∧
        ((∃ extension, Extended name name' extension) ∨
          ((∀ stem extension, ¬ Extended name stem extension) ∧
            name' = name ++ ".out".toList)) := by
  obtain ⟨directory, name, hnames, hcases⟩ := splitExtension_cases path.toList
  rcases hcases with ⟨stem, extension, hname, hsplit⟩ | ⟨hnone, hsplit⟩
  · have hexecutable := toList_executable_of_extension hsplit
    refine ⟨executable_ne_of_length ?_, directory, name, stem, hnames, ?_, ?_,
      .inl ⟨extension, hname⟩⟩
    · rw [hexecutable, hnames.eq, hname.eq]
      simp only [List.length_append, List.length_cons]
      omega
    · rw [hexecutable]
      exact hnames.shorten hname
    · obtain ⟨c, hc, -⟩ := hname.visible
      exact List.ne_nil_of_mem hc
  · have hexecutable := toList_executable_of_none hsplit
    refine ⟨executable_ne_of_length ?_, directory, name, name ++ ".out".toList, hnames, ?_, ?_,
      .inr ⟨hnone, rfl⟩⟩
    · rw [hexecutable]
      simp
    · rw [hexecutable]
      exact hnames.lengthen (by decide)
    · simp

example :
    ["p.c", "a.d/p", "..p.tar.c", "a/..", "p.", "a/"].map executable =
      ["p", "a.d/p.out", "..p.tar", "a/...out", "p", "a/.out"] := by
  decide +kernel

end StageZero.Path
