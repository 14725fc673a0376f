/-!
# Numbers in records of bytes

The numbers of a record stand at fixed places, least significant byte first.
-/

namespace SectionTimes

/-- The number whose bytes, the least significant first, are given. -/
def natOfBytes : List UInt8 → Nat
  | [] => 0
  | b :: bs => b.toNat + 256 * natOfBytes bs

/-- The bytes of a run from a place on, at most `length` of them. -/
def slice (bytes : List UInt8) (start length : Nat) : List UInt8 := (bytes.drop start).take length

/-- The number of `width` bytes at a place of a record. -/
def fieldAt (record : List UInt8) (start width : Nat) : Nat := natOfBytes (slice record start width)

end SectionTimes
