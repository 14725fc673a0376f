/-!
# Checksums of 32 bits

The cyclic redundancy check of zip archives: bits are taken from the lowest up, the divisor in
reversed form is `EDB88320`, and the remainder starts and ends inverted.
-/

namespace SectionTimes.Checksum

/-- One division step. -/
def shift (r : UInt32) : UInt32 := if r &&& 1 = 1 then (r >>> 1) ^^^ 0xEDB88320 else r >>> 1

/-- The remainder after one more byte. -/
def update (r : UInt32) (b : UInt8) : UInt32 :=
  let r := r ^^^ b.toUInt32
  shift (shift (shift (shift (shift (shift (shift (shift r)))))))

/-- The checksum of a run of bytes. -/
def of (bytes : List UInt8) : UInt32 := bytes.foldl update 0xFFFFFFFF ^^^ 0xFFFFFFFF

end SectionTimes.Checksum
