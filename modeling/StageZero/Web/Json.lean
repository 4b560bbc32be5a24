/-!
# JSON values

The values that requests carry and answers are made of. An object keeps its
fields in order, and of two fields with one name the later counts.
-/

namespace StageZero.Web

/-- A JSON value. Numbers with a point or an exponent are kept as digits and a
power of ten; the three that are no numbers are kept by name. -/
inductive Json where
  | null
  | bool (value : Bool)
  | integer (value : Int)
  | real (negative : Bool) (digits : Nat) (exponent : Int)
  | special (name : String)
  | string (value : String)
  | array (items : List Json)
  | object (fields : List (String × Json))

namespace Json

def field? : Json → String → Option Json
  | .object fields, name => fields.reverse.lookup name
  | _, _ => none

/-- Whether a positive decimal is so small that it is zero in double precision:
it is at most half of the least positive double. -/
def vanishes (digits : Nat) (exponent : Int) : Bool :=
  if digits = 0 then true
  else if 0 ≤ exponent then false
  else
    let places := (-exponent).toNat
    if (Nat.toDigits 10 digits).length + 400 < places then true
    else digits * Nat.pow 2 1075 ≤ Nat.pow 10 places

/-- Whether a value counts as a yes: nothing empty and nothing zero does. -/
def truthy : Json → Bool
  | .null => false
  | .bool value => value
  | .integer value => value ≠ 0
  | .real _ digits exponent => !vanishes digits exponent
  | .special _ => true
  | .string value => value ≠ ""
  | .array items => !items.isEmpty
  | .object fields => !fields.isEmpty

end Json

end StageZero.Web
