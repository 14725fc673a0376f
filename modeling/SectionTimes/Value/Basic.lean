import SectionTimes.Text.Halves
import SectionTimes.Value.Calendar

/-!
# Values of a configuration

A configuration file gives values of several kinds, and a setting is used whatever kind it has.
Truth values count as the integers 0 and 1, and a number is the same key as another of the same
value, whether or not both are integers.  A text may have halves of characters in it, each of them
a character of its own that cannot be shown.

Byte strings, sets and pairs, which a file can give only by naming their kind, are no values here.
-/

namespace SectionTimes

/-- A value of a configuration. -/
inductive Value where
  | null
  | bool (value : Bool)
  | int (value : Int)
  | float (value : Binary64)
  | text (value : String)
  /-- A text with halves of characters in it, by its codes. -/
  | halved (codes : List Nat)
  | date (value : Date)
  | moment (value : Moment)
  | list (items : List Value)
  /-- A mapping, by its entries in the order in which the keys first came. -/
  | map (entries : List (Value × Value))
  deriving Inhabited, Repr

namespace Value

/-- The integer that a truth value or an integer counts as. -/
def asInt? : Value → Option Int
  | .bool b => some b.toNat
  | .int i => some i
  | _ => none

/-- Whether an integer and a floating-point number have the same value. -/
def sameAsInt (i : Int) : Binary64 → Bool
  | .finite negative quanta => i * Binary64.one == Binary64.signed negative quanta
  | _ => false

/-- The text that a value is, with halves put together. -/
def text? : Value → Option String
  | .text s => some s
  | .halved codes => some (String.ofList (Text.joinHalves codes))
  | _ => none

/-- Whether two values are the same key of a mapping.  The undefined number is the same key as
itself. -/
def sameKey : Value → Value → Bool
  | .null, .null => true
  | .text s, .text t => s == t
  | .halved a, .halved b => a == b
  | .date d, .date e => d == e
  | .moment m, .moment n => m.same n
  | .float x, .float y => x.same y || (x == .nan && y == .nan)
  | .float x, v => v.asInt?.any fun i => sameAsInt i x
  | v, .float x => v.asInt?.any fun i => sameAsInt i x
  | v, w =>
    match v.asInt?, w.asInt? with
    | some i, some j => i == j
    | _, _ => false

/-- Whether a value can be a key of a mapping. -/
def isKey : Value → Bool
  | .list _ => false
  | .map _ => false
  | _ => true

/-- The entries of a mapping with one more written behind them. -/
def putEntry (key value : Value) : List (Value × Value) → List (Value × Value)
  | [] => [(key, value)]
  | e :: es => if e.1.sameKey key then (e.1, value) :: es else e :: putEntry key value es

/-- The value under a name in the entries of a mapping. -/
def entry? (name : String) (entries : List (Value × Value)) : Option Value :=
  (entries.find? fun e => e.1.sameKey (.text name)).map Prod.snd

/-- Whether a value counts as present: no value, false, zero and what is empty do not. -/
def isTruthy : Value → Bool
  | .null => false
  | .bool b => b
  | .int i => i != 0
  | .float x => !x.same .zero
  | .text s => !s.isEmpty
  | .halved codes => !codes.isEmpty
  | .list items => !items.isEmpty
  | .map entries => !entries.isEmpty
  | .date _ => true
  | .moment _ => true

end Value

end SectionTimes
