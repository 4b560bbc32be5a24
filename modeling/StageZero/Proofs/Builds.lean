import StageZero.Program
import StageZero.Proofs.Conversations
import StageZero.Proofs.Decoding

/-!
# What a build changes

A build goes through five stages: it reads, compiles, writes, calls a C compiler and
runs a program. Each of them can fail, and what matters then is what has been done
before: nothing before the file is written, and only the file and the commands that
were started after it.

So the stages have one kind of specification. From what the stages before have come
to, a stage goes on with more, or it ends the build, and `Course` is the list of all
endings with the file that was written and the commands that were started. All there
is to say about builds is read off that list.

A build is a function of its host, and changes nothing itself. What it stands for on
a disk is `Log.carryOut`.
-/

namespace StageZero

/-! ## Disks -/

namespace Disk

variable {d : Disk} {p q : Place}

end Disk

namespace Build

open CommandLine (Options)

/-! ## How far a build comes -/

section

variable {Refusal : Type} (host : Host Refusal) (o : Options) (input : String)

/-- The input can be read and holds this text. -/
structure Reads (source : String) : Prop where
  usable : Path.holdsNull input = false
  text : ∃ text : String, host.read input = some text.toUTF8 ∧
    source = String.ofList (Utf8.normalizeNewlines text.toList)

/-- The input is translated. -/
def Translates (c : Compilation) : Prop :=
  ∃ source, Reads host input source ∧ (compile o.debug source).result = .ok c

/-- The translation of the input is written at the output path. -/
structure Writes (path text : String) : Prop where
  translated : ∃ c, Translates host o input c ∧ c.document = text
  output : o.output = some path
  usable : Path.holdsNull path = false
  writable : host.writable path = true

/-- A C compiler is called for what was written. -/
structure Calls (path text cc : String) : Prop extends Writes host o input path text where
  wanted : o.compile = true ∨ o.run = true
  compiler : o.cc = some cc

/-- The program that is built from a C file, as it is started. -/
def program (path : String) : String :=
  Path.absolute host.directory (Path.executable path)

/-- The C compiler as it is called for a C file, word by word. -/
def ccCall (cc path : String) : List String :=
  [cc, "-O2", "-o", Path.executable path, path]

/-- What ends a build before it has a source. -/
inductive Unread : Ending Refusal → Prop where
  | unusable (h : Path.holdsNull input = true) : Unread .pathUnusable
  | unreadable (h : Path.holdsNull input = false) (hr : host.read input = none) :
      Unread (.exited 1)
  | undecodable {bytes : ByteArray} {fault : Utf8.Fault} (h : Path.holdsNull input = false)
      (hr : host.read input = some bytes) (hn : ∀ text : String, bytes ≠ text.toUTF8)
      (hd : Utf8.decode bytes = .error fault) : Unread (.undecodable fault)

/-- What ends a build before its file is written. -/
inductive Unwritten : Ending Refusal → Prop where
  | unread {ending : Ending Refusal} (h : Unread host input ending) : Unwritten ending
  | untranslated {source : String} {cause : Fault} {d : Diagnostic} {tok : Token}
      (hs : Reads host input source)
      (hc : (compile o.debug source).result = .error (.fault cause d tok)) :
      Unwritten (.exited 1)
  | outputMissing {c : Compilation} (hc : Translates host o input c) (ho : o.output = none) :
      Unwritten .outputMissing
  | outputUnusable {c : Compilation} {path : String} (hc : Translates host o input c)
      (ho : o.output = some path) (h : Path.holdsNull path = true) : Unwritten .pathUnusable
  | unwritable {c : Compilation} {path : String} (hc : Translates host o input c)
      (ho : o.output = some path) (h : Path.holdsNull path = false)
      (hw : host.writable path = false) : Unwritten (.exited 1)

/-- How a build goes on when a C compiler is called, with the commands started. -/
inductive Called (path cc : String) : Ending Refusal → List (List String) → Prop where
  | notFound (hs : host.start (ccCall cc path) = .notFound) :
      Called path cc (.exited 1) [ccCall cc path]
  | refused {reason : Refusal} (hs : host.start (ccCall cc path) = .refused reason) :
      Called path cc (.refused (ccCall cc path) reason) [ccCall cc path]
  | failed {status : Int} (hs : host.start (ccCall cc path) = .exited status)
      (hne : status ≠ 0) : Called path cc (.exited 1) [ccCall cc path]
  | built (hs : host.start (ccCall cc path) = .exited 0) (hr : o.run = false) :
      Called path cc (.exited 0) [ccCall cc path]
  | programMissing (hs : host.start (ccCall cc path) = .exited 0) (hr : o.run = true)
      (hp : host.start [program host path] = .notFound) :
      Called path cc (.programMissing (program host path)) [ccCall cc path, [program host path]]
  | programRefused {reason : Refusal} (hs : host.start (ccCall cc path) = .exited 0)
      (hr : o.run = true) (hp : host.start [program host path] = .refused reason) :
      Called path cc (.refused [program host path] reason) [ccCall cc path, [program host path]]
  | ran {status : Int} (hs : host.start (ccCall cc path) = .exited 0) (hr : o.run = true)
      (hp : host.start [program host path] = .exited status) :
      Called path cc (.exited status) [ccCall cc path, [program host path]]

/-- The endings of a build, with the file written and the commands started. -/
inductive Course : Ending Refusal → Option (String × String) → List (List String) → Prop where
  | unwritten {ending : Ending Refusal} (h : Unwritten host o input ending) : Course ending none []
  | uncalled {path text : String} (hw : Writes host o input path text) (hc : o.compile = false)
      (hr : o.run = false) : Course (.exited 0) (some (path, text)) []
  | compilerMissing {path text : String} (hw : Writes host o input path text)
      (h : o.compile = true ∨ o.run = true) (hcc : o.cc = none) :
      Course .compilerMissing (some (path, text)) []
  | called {path text cc : String} {ending : Ending Refusal} {commands : List (List String)}
      (hc : Calls host o input path text cc) (h : Called host o path cc ending commands) :
      Course ending (some (path, text)) commands

end

section

variable {Refusal : Type} {host : Host Refusal} {o : Options} {input : String} {log : Log}

theorem Reads.unique {source source' : String} (h : Reads host input source)
    (h' : Reads host input source') : source = source' := by
  obtain ⟨text, hread, rfl⟩ := h.text
  obtain ⟨text', hread', rfl⟩ := h'.text
  have htext : text = text' := String.toByteArray_inj.1 (Option.some.inj (hread.symm.trans hread'))
  rw [htext]

theorem Translates.unique {c c' : Compilation} (h : Translates host o input c)
    (h' : Translates host o input c') : c = c' := by
  obtain ⟨source, hs, hc⟩ := h
  obtain ⟨source', hs', hc'⟩ := h'
  cases hs.unique hs'
  exact Except.ok.inj (hc.symm.trans hc')

theorem Writes.unique {path path' text text' : String} (h : Writes host o input path text)
    (h' : Writes host o input path' text') : path = path' ∧ text = text' := by
  obtain ⟨c, hc, rfl⟩ := h.translated
  obtain ⟨c', hc', rfl⟩ := h'.translated
  exact ⟨Option.some.inj (h.output.symm.trans h'.output), by rw [hc.unique hc']⟩

theorem Calls.unique {path path' text text' cc cc' : String} (h : Calls host o input path text cc)
    (h' : Calls host o input path' text' cc') : path = path' ∧ text = text' ∧ cc = cc' := by
  obtain ⟨hpath, htext⟩ := h.toWrites.unique h'.toWrites
  exact ⟨hpath, htext, Option.some.inj (h.compiler.symm.trans h'.compiler)⟩

/-! ## The stages -/

variable {α β : Type} {P : α → Log → Prop} {P' : β → Log → Prop}

/-- A stage has an answer, or it ends the build in its course. -/
def Ends (host : Host Refusal) (o : Options) (input : String) (P : α → Log → Prop) :
    EStateM.Result (Ending Refusal) Log α → Prop
  | .ok a log => P a log
  | .error ending log => Course host o input ending log.written log.commands

theorem Ends.bind {m : BuildStep Refusal α} {k : α → BuildStep Refusal β}
    (h : Ends host o input P (m log))
    (hk : ∀ a log', P a log' → Ends host o input P' (k a log')) :
    Ends host o input P' ((m >>= k) log) := by
  cases hm : m log with
  | ok a log' =>
      rw [hm] at h
      rw [bind_ok hm]
      exact hk a log' h
  | error ending log' =>
      rw [hm] at h
      rw [bind_error hm]
      exact h

/-- A step that only prints. -/
def OnlyPrints (m : BuildStep Refusal Unit) : Prop :=
  ∀ log, ∃ log', m log = .ok () log' ∧ log'.written = log.written ∧ log'.commands = log.commands

theorem OnlyPrints.bind {m : BuildStep Refusal Unit} {k : Unit → BuildStep Refusal β}
    (hm : OnlyPrints m)
    (hk : ∀ log', log'.written = log.written → log'.commands = log.commands →
      Ends host o input P' (k () log')) : Ends host o input P' ((m >>= k) log) := by
  obtain ⟨log', heq, hwritten, hcommands⟩ := hm log
  rw [bind_ok heq]
  exact hk log' hwritten hcommands

/-- What has been written and started so far. -/
structure Done (written : Option (String × String)) (commands : List (List String)) (log : Log) :
    Prop where
  written : log.written = written
  commands : log.commands = commands

section

variable {written : Option (String × String)} {commands : List (List String)}

theorem Done.of_eq (h : Done written commands log) {log' : Log} (hw : log'.written = log.written)
    (hc : log'.commands = log.commands) : Done written commands log' :=
  ⟨hw.trans h.written, hc.trans h.commands⟩

theorem Course.of_done {ending : Ending Refusal} (h : Course host o input ending written commands)
    (hl : Done written commands log) : Course host o input ending log.written log.commands := by
  rwa [hl.written, hl.commands]

end

theorem Unwritten.ends {ending : Ending Refusal} (h : Unwritten host o input ending)
    (hl : Done none [] log) : Course host o input ending log.written log.commands :=
  (Course.unwritten h).of_done hl

theorem Unread.ends {ending : Ending Refusal} (h : Unread host input ending)
    (hl : Done none [] log) : Course host o input ending log.written log.commands :=
  (Unwritten.unread h).ends hl

variable {ending : Ending Refusal} {written : Option (String × String)}
  {commands : List (List String)}

end

/-! ## What a build answers for -/

section

variable {Refusal : Type} (host : Host Refusal) (o : Options) (input : String)

/-- The program that was built is started. -/
structure Runs (path text cc : String) : Prop extends Calls host o input path text cc where
  built : host.start (ccCall cc path) = .exited 0
  run : o.run = true

end

section

variable {Refusal : Type} {host : Host Refusal} {o : Options} {input : String}
  {ending : Ending Refusal} {written : Option (String × String)}
  {commands : List (List String)} {log : Log}

/-- A disk with one source on it, where the C compiler succeeds and the program that
was built does not. -/
def oneSource : Host :=
  let d := Disk.ofEntries ["out"] [("p.wr", "cetak 1\r\n".toUTF8)]
  { read := d.read?
    writable := d.writable
    status := fun command => if command.head? = some "gcc" then some 0 else some 7
    directory := "/work" }

/-- The same disk, where a program may not be executed. -/
def forbidden (name : String) : Host String where
  read := oneSource.read
  writable := oneSource.writable
  status := oneSource.status
  refusal command := if command.head? = some name then some "Permission denied" else none
  directory := "/work"

end

end Build

end StageZero
