import ReviewPipeline.Json.Basic
import ReviewPipeline.Vocabulary

/-!
# Reading Records from JSON

A record is written as an object, and can be read from an object or from a list of its fields in
order. In an object unknown members are passed over, no field may come twice, and a field that
may be empty may be left out; in a list no field may be left out except those with a default.
-/

namespace ReviewPipeline.Json

/-- The fields of a record as they were found. -/
structure Fields where
  /-- Whether they come from a list. -/
  isPositional : Bool
  /-- The values found, by the names of their fields. -/
  found : List (String × Json)

/-- Find the fields with the given names, which are listed in the order of a list of fields. -/
def fields? (names : List String) : Json → Option Fields
  | obj members =>
    let found := members.filter fun member => names.contains member.1
    if decide (found.map (·.1)).Nodup then some ⟨false, found⟩ else none
  | arr items =>
    if items.length ≤ names.length then some ⟨true, names.zip items⟩ else none
  | _ => none

namespace Fields

variable {α : Type}

/-- A field that must be there. -/
def required (fields : Fields) (name : String) (read : Json → Option α) : Option α :=
  (fields.found.lookup name).bind read

/-- Read `null` as nothing and any other value with `read`. -/
def nullable (read : Json → Option α) : Json → Option (Option α)
  | .null => some none
  | value => (read value).map some

/-- A field that may be empty. -/
def optional (fields : Fields) (name : String) (read : Json → Option α) : Option (Option α) :=
  match fields.found.lookup name with
  | some value => nullable read value
  | none => if fields.isPositional then none else some none

/-- A field with a default, which stands for it when it is left out. -/
def withDefault (fields : Fields) (name : String) (read : Json → Option α) (default : α) :
    Option α :=
  match fields.found.lookup name with
  | some value => read value
  | none => some default

end Fields

/-- Read a string. -/
def text? : Json → Option String
  | str s => some s
  | _ => none

/-- Read a truth value. -/
def truth? : Json → Option Bool
  | bool b => some b
  | _ => none

/-- Read a whole number between two bounds, both included. -/
def intBetween? (least greatest : Int) : Json → Option Int
  | int n => if least ≤ n ∧ n ≤ greatest then some n else none
  | _ => none

/-- Read a signed 32-bit number. -/
def int32? : Json → Option Int :=
  intBetween? (-2147483648) 2147483647

/-- Read a signed 64-bit number. -/
def int64? : Json → Option Int :=
  intBetween? (-9223372036854775808) 9223372036854775807

/-- Read an unsigned 64-bit number. -/
def uint64? (value : Json) : Option Nat :=
  (intBetween? 0 18446744073709551615 value).map Int.toNat

/-- Read a list of values. -/
def list? {α : Type} (read : Json → Option α) : Json → Option (List α)
  | arr items => items.mapM read
  | _ => none

/-- Read a value of a vocabulary: its stored word, or an object with that word as its only
member and `null` under it. -/
def word? {α : Type} (v : Vocabulary α) : Json → Option α
  | str s => v.ofWord? s
  | obj [(s, null)] => v.ofWord? s
  | _ => none

end ReviewPipeline.Json
