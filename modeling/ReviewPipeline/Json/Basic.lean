/-!
# JSON Values

The values of JSON texts. Whole numbers are kept as integers; numbers with a fraction or an
exponent, which no record of this library has, are kept as they are written. The members of an
object stand in the order in which they are written.
-/

namespace ReviewPipeline

/-- A JSON value. -/
inductive Json where
  /-- The value `null`. -/
  | null
  /-- A truth value. -/
  | bool (b : Bool)
  /-- A whole number written without fraction and exponent. -/
  | int (n : Int)
  /-- Any other number, as it is written. -/
  | decimal (text : String)
  /-- A string. -/
  | str (s : String)
  /-- A list of values. -/
  | arr (items : List Json)
  /-- An object, as its members. -/
  | obj (members : List (String × Json))
  deriving Repr

namespace Json

/-- A string or `null`. -/
def ofText? (s : Option String) : Json :=
  match s with
  | some s => str s
  | none => null

/-- A whole number or `null`. -/
def ofInt? (n : Option Int) : Json :=
  match n with
  | some n => int n
  | none => null

/-- The member with a name, if the value is an object that has one. -/
def member? (name : String) : Json → Option Json
  | obj members => members.lookup name
  | _ => none

end Json

end ReviewPipeline
