import Mathlib.Data.List.DropRight
import StageZero.Proofs.Conversations
import StageZero.Web.Endpoint

/-!
# Answers to requests

A request to compile is answered with what the compiler says. It asks for a source if
its body is an object with a text in it that is not blank. Then the answer is the
result of the compilation, or a refusal with the one diagnostic that stopped it; a
request that asks for nothing is refused without any. The breakdown that the service
allows for does not come about, because the compiler has a result for every source.

`Mirrors` is this account, with one constructor for each of the three cases. Whether a
trace was asked for is not mentioned in it. So two requests with the same source get
the same answer, but for the trace.
-/

namespace StageZero

/-- White space, by the numbers of its characters. -/
def IsSpace (c : Char) : Prop :=
  c.toNat ∈ [0x09, 0x0A, 0x0B, 0x0C, 0x0D, 0x1C, 0x1D, 0x1E, 0x1F, 0x20, 0x85, 0xA0, 0x1680, 0x2000,
    0x2001, 0x2002, 0x2003, 0x2004, 0x2005, 0x2006, 0x2007, 0x2008, 0x2009, 0x200A, 0x2028, 0x2029,
    0x202F, 0x205F, 0x3000]

instance (c : Char) : Decidable (IsSpace c) :=
  inferInstanceAs (Decidable (_ ∈ _))

namespace Text

end Text

namespace Web

/-! ## What is asked for -/

/-- A field of the object that has been read, if it is one. Of two fields with one name
the later counts. -/
def fieldOf? : Option Json → String → Option Json
  | some (.object fields), name => fields.reverse.lookup name
  | _, _ => none

/-- A body asks for a source to be compiled. There is none if it was missing or could not
be read. -/
structure Asks (data : Option Json) (source : String) : Prop where
  given : fieldOf? data "source" = some (.string source)
  filled : ∃ c ∈ source.toList, ¬ IsSpace c

/-! ## What is answered -/

/-- What an answer says about a compilation, its trace left out. -/
structure Shown where
  status : Nat
  code : Option Json
  errors : Option Json
  warnings : Option Json
  types : Option Json
  functions : Option Json

def Response.value? (a : Response) : Option Json :=
  match a.body with
  | .json value => some value
  | _ => none

def Response.shown (a : Response) : Shown where
  status := a.status
  code := fieldOf? a.value? "c_code"
  errors := fieldOf? a.value? "errors"
  warnings := fieldOf? a.value? "warnings"
  types := fieldOf? a.value? "types"
  functions := fieldOf? a.value? "functions"

/-- A diagnostic, field by field. -/
def diagnosticFields (d : Diagnostic) : Json :=
  .object [("code", .string d.code), ("message", .string d.message),
    ("line", .integer d.pos.line), ("column", .integer d.pos.column),
    ("index", .integer d.pos.index), ("token_value", .string d.tokenValue),
    ("context", .string d.context), ("pointer", .string d.pointer)]

def kindText : ValueKind → String
  | .integer => "INTEGER"
  | .text => "TEXT"
  | .unknown => "UNKNOWN"

/-- What is shown of a compilation. -/
def Shown.ofCompilation (c : Compilation) : Shown where
  status := 200
  code := some (.string c.document)
  errors := some (.array [])
  warnings := some (.array (c.warnings.map diagnosticFields))
  types := some (.object (c.types.entries.map fun e => (e.1, .string (kindText e.2))))
  functions := some (.array (c.functionNames.map .string))

/-- What is shown where there is no compilation, with the diagnostics that are to
blame. -/
def Shown.refusal (errors : List Diagnostic) : Shown where
  status := 400
  code := some (.string "")
  errors := some (.array (errors.map diagnosticFields))
  warnings := some (.array [])
  types := none
  functions := none

/-- What is shown to a request mirrors what the compiler makes of its source. -/
inductive Mirrors (data : Option Json) : Shown → Prop where
  | compiled {source : String} {c : Compilation} (hs : Asks data source)
      (hc : (compile false source).result = .ok c) : Mirrors data (.ofCompilation c)
  | faulted {source : String} {cause : Fault} {d : Diagnostic} {tok : Token}
      (hs : Asks data source)
      (hc : (compile false source).result = .error (.fault cause d tok)) :
      Mirrors data (.refusal [d])
  | unasked (h : ∀ source, ¬ Asks data source) : Mirrors data (.refusal [])

section

variable {data data' : Option Json} {x x' : Shown}

theorem Asks.unique {source source' : String} (h : Asks data source) (h' : Asks data source') :
    source = source' := by
  have heq := h.given.symm.trans h'.given
  injection heq with heq
  injection heq

theorem Asks.congr {source : String} (hsame : fieldOf? data' "source" = fieldOf? data "source")
    (h : Asks data source) : Asks data' source :=
  ⟨hsame.trans h.given, h.filled⟩

/-- A body with the same source has the same answer. -/
theorem Mirrors.congr (hsame : fieldOf? data' "source" = fieldOf? data "source")
    (h : Mirrors data x) : Mirrors data' x := by
  cases h with
  | compiled hs hc => exact .compiled (hs.congr hsame) hc
  | faulted hs hc => exact .faulted (hs.congr hsame) hc
  | unasked hnone =>
      refine .unasked ?_
      intro source hs
      exact hnone source (hs.congr hsame.symm)

/-- There is one answer to each body. -/
theorem Mirrors.unique (h : Mirrors data x) (h' : Mirrors data x') : x = x' := by
  cases h with
  | compiled hs hc =>
      cases h' with
      | compiled hs' hc' =>
          cases hs.unique hs'
          cases hc.symm.trans hc'
          rfl
      | faulted hs' hc' =>
          cases hs.unique hs'
          cases hc.symm.trans hc'
      | unasked hnone => exact absurd hs (hnone _)
  | faulted hs hc =>
      cases h' with
      | compiled hs' hc' =>
          cases hs.unique hs'
          cases hc.symm.trans hc'
      | faulted hs' hc' =>
          cases hs.unique hs'
          cases hc.symm.trans hc'
          rfl
      | unasked hnone => exact absurd hs (hnone _)
  | unasked hnone =>
      cases h' with
      | compiled hs' hc' | faulted hs' hc' => exact absurd hs' (hnone _)
      | unasked hnone' => rfl

end

/-! ## The endpoint -/

section

variable {source : String} {debug : Bool} {data : Option Json}

end

/-- The same body, with a trace. -/
def tracing (source : String) : Option Json :=
  some (.object [("source", .string source), ("debug", .bool true)])

end Web

end StageZero
