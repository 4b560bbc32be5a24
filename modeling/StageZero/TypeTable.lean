/-!
# Value kinds and the type table

The language has two kinds of value, integers and texts. Which one a variable
holds is fixed by its declaration and kept in one flat table: there are no
scopes, so a name declared in a function body is known everywhere after it.

The table keeps its names in the order of their first declaration. Declaring a
name again changes its kind where it stands.
-/

namespace StageZero

/-- The kind of a value. Operators alone have no value, and their kind is
unknown. -/
inductive ValueKind where
  | integer
  | text
  | unknown
  deriving DecidableEq

namespace ValueKind

def name : ValueKind → String
  | .integer => "INTEGER"
  | .text => "TEXT"
  | .unknown => "UNKNOWN"

/-- The kind with a given printed name. -/
def ofName? (text : String) : Option ValueKind :=
  [ValueKind.integer, .text, .unknown].find? fun k => k.name == text

end ValueKind

/-- The declared names with their kinds, in the order of first declaration. -/
structure TypeTable where
  entries : List (String × ValueKind) := []
  deriving DecidableEq

namespace TypeTable

/-- Sets the kind of a name in a list of entries, in place if it is there and
at the end otherwise. -/
def set (name : String) (kind : ValueKind) :
    List (String × ValueKind) → List (String × ValueKind)
  | [] => [(name, kind)]
  | entry :: rest =>
    if entry.1 = name then (name, kind) :: rest else entry :: set name kind rest

def declare (t : TypeTable) (name : String) (kind : ValueKind) : TypeTable :=
  ⟨set name kind t.entries⟩

/-- The kind of a name. A name that was never declared holds an integer. -/
def lookup (t : TypeTable) (name : String) : ValueKind :=
  (t.entries.lookup name).getD .integer

def names (t : TypeTable) : List String :=
  t.entries.map (·.1)

def contains (t : TypeTable) (name : String) : Bool :=
  t.names.contains name

def size (t : TypeTable) : Nat :=
  t.entries.length

end TypeTable

end StageZero
