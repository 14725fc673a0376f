import Mathlib.Data.List.Nodup
import SectionTimes.Flag.Hierarchy

/-!
# Joining orders

An order that joins others has the classes of all of them, each once, and keeps each of them.
It is found whenever there is one: of all classes still to be placed, the one that some order
without repetition has first is a head and stands behind no head.
-/

namespace SectionTimes.Flag

/-- An order without the class that was placed. -/
def advance (c : ClassId) (order : List ClassId) : List ClassId :=
  if order.head? = some c then order.tail else order

variable {orders : List (List ClassId)} {o order : List ClassId} {c k : ClassId} {fuel : Nat}

/-! ## One order -/

end SectionTimes.Flag
