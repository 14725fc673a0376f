import SectionTimes.Number.Binary64

/-!
# Structured data in JSON

The values of JSON.  Integers of any size and binary floating-point numbers are told apart, and
an object keeps the order of its members.  As a string is written by UTF-16 units, it may have
halves of characters in it.
-/

namespace SectionTimes

/-- A JSON value. -/
inductive Json where
  | null
  | bool (value : Bool)
  /-- A number written without a point and without an exponent. -/
  | int (value : Int)
  /-- A number written with a point or an exponent, or one of the words for the others. -/
  | float (value : Binary64)
  | text (value : String)
  /-- A string with halves of characters in it, by its codes. -/
  | halved (codes : List Nat)
  | list (items : List Json)
  /-- An object, by its members in their order. -/
  | object (members : List (String × Json))
  deriving Inhabited, Repr

namespace Json

/-- The value of the member of an object with a given name. -/
def get? (name : String) : Json → Option Json
  | .object members => (members.find? fun m => m.1 == name).map Prod.snd
  | _ => none

end Json

end SectionTimes
