import SectionTimes.Zip.Unpacking

/-!
# Unpacking blocks of bzip2

The data is a sequence of blocks, and bits are taken from the highest bit of each byte down.  A
block holds symbols of prefix codes: digits of the length of a run, or places in a list of bytes
whose front is the byte used last.  The bytes found so are the last column of a sorted table of
rotations; the rotation that is wanted is got back from them, and runs of four equal bytes in it
say how often the byte comes again.  Blocks have checksums, and so has the whole.
-/

namespace SectionTimes.Bzip2

open Unpacking

/-- What can be wrong with the data. -/
inductive Fault where
  /-- Neither a block nor the end begins with the mark it should have. -/
  | mark
  /-- The rotation that is wanted is none of the table. -/
  | origin
  /-- No byte is used. -/
  | noBytes
  /-- There are too few or too many codes. -/
  | codeCount
  /-- There are no groups of symbols. -/
  | noGroups
  /-- A group uses a code that there is not. -/
  | group
  | codeLength
  /-- Bits that are the code of no symbol. -/
  | symbol
  /-- There are more symbols than the groups hold. -/
  | symbolCount
  /-- The length of a run has too many digits. -/
  | run
  /-- There are more bytes than a block holds. -/
  | size
  /-- Four equal bytes end the block. -/
  | unfinished
  | checksum
  deriving DecidableEq, Repr

/-- The byte whose bits are in the other order. -/
def reverseBits (b : UInt8) : UInt8 :=
  UInt8.ofNat ((bitsOf b).foldl (fun n bit => 2 * n + bit.toNat) 0)

/-! ## Checksums -/

/-- The remainder after one more bit. -/
def shift (r : UInt32) : UInt32 :=
  if r &&& 0x80000000 = 0 then r <<< 1 else (r <<< 1) ^^^ 0x04C11DB7

/-- The remainder after one more byte. -/
def update (r : UInt32) (b : UInt8) : UInt32 :=
  let r := r ^^^ (b.toUInt32 <<< 24)
  shift (shift (shift (shift (shift (shift (shift (shift r)))))))

/-- The checksum of the bytes of a block. -/
def checksum (bytes : Array UInt8) : UInt32 := bytes.foldl update 0xFFFFFFFF ^^^ 0xFFFFFFFF

/-- The checksum of blocks after one more block. -/
def joinChecksum (sum block : UInt32) : UInt32 := ((sum <<< 1) ||| (sum >>> 31)) ^^^ block

/-- Takes a checksum. -/
def takeChecksum : Decoder Fault UInt32 := do return UInt32.ofNat (← numberDown 32)

/-! ## The codes of a block -/

/-- Takes bytes that have to be there. -/
def expect : List Nat → Decoder Fault Unit
  | [] => pure ()
  | b :: bs => do
    if (← numberDown 8) ≠ b then fail .mark
    expect bs

/-- Takes the bytes that a block uses, sixteen and sixteen of them marked together. -/
def usedBytes : Decoder Fault (List UInt8) := do
  let sixteens ← flags 16
  let used ← (marked sixteens).mapM fun high => do
    return (marked (← flags 16)).map fun low => UInt8.ofNat (16 * high + low)
  return used.flatten
where
  /-- The places at which there is a mark. -/
  marked (marks : List Bool) : List Nat :=
    (marks.zipIdx.filter fun (mark, _) => mark).map Prod.snd

/-- Takes a number below `bound`, given by as many bits that are set. -/
def unary : Nat → Decoder Fault Nat
  | 0 => fail .group
  | bound + 1 => do
    if ← bit then return (← unary bound) + 1
    return 0

/-- The element at a place of a list, and the list with that element at its front. -/
def toFront {α : Type} [Inhabited α] (place : Nat) (front : List α) : α × List α :=
  let x := front.getD place default
  (x, x :: front.eraseIdx place)

/-- Takes, for each of `n` groups, which code it uses. -/
def groups (codeCount : Nat) : Nat → List Nat → Decoder Fault (List Nat)
  | 0, _ => pure []
  | n + 1, front => do
    let (code, front) := toFront (← unary codeCount) front
    return code :: (← groups codeCount n front)

/-- The greatest length of a code. -/
def maxLength : Nat := 20

/-- Takes the length of a code, by steps from the length before it.  A step takes two bits, so that
`fuel` need not be more than the number of bits. -/
def codeLength : (fuel length : Nat) → Decoder Fault Nat
  | 0, _ => throw .starved
  | fuel + 1, length => do
    if length < 1 ∨ maxLength < length then fail .codeLength
    if ← bit then codeLength fuel (if ← bit then length - 1 else length + 1)
    else return length

/-- Takes the lengths of the codes of `n` symbols. -/
def codeLengths (fuel : Nat) : Nat → Nat → Decoder Fault (List Nat)
  | 0, _ => pure []
  | n + 1, length => do
    let length ← codeLength fuel length
    return length :: (← codeLengths fuel n length)

/-- Takes a number of codes for `symbolCount` symbols. -/
def codes (fuel symbolCount : Nat) : Nat → Decoder Fault (List Code)
  | 0 => pure []
  | n + 1 => do
    let lengths ← codeLengths fuel symbolCount (← numberDown 5)
    return Code.ofLengths lengths :: (← codes fuel symbolCount n)

/-! ## The symbols of a block -/

/-- How many symbols there are in a group. -/
def groupSize : Nat := 50

/-- How many groups count; more of them may be given. -/
def maxGroups : Nat := 18002

/-- The place among the groups of symbols. -/
structure Groups where
  /-- The code of the group begun. -/
  code : Code
  /-- How many symbols are left in it. -/
  left : Nat
  /-- The codes of the groups behind it. -/
  later : List Code

/-- The groups at the next symbol. -/
def Groups.next? (g : Groups) : Option Groups :=
  if g.left ≠ 0 then some g
  else
    match g.later with
    | [] => none
    | code :: later => some ⟨code, groupSize, later⟩

/-- Takes a symbol. -/
def symbol (g : Groups) : Decoder Fault (Nat × Groups) :=
  match g.next? with
  | none => fail .symbolCount
  | some g => do
    match ← g.code.take with
    | some n => return (n, { g with left := g.left - 1 })
    | none =>
      -- that there is no such code is found one bit behind the greatest length
      discard (numberDown (maxLength + 1 - g.code.counts.length))
      fail .symbol

/-- The weight that the last digit of a run may have. -/
def maxWeight : Nat := 2 * 1024 * 1024

/-- Takes symbols up to the end of the block, which is the symbol `last`.  Of the run that the
symbols before began there are `count` bytes, and its next digit has a given weight.  Each symbol
takes a bit, so that `fuel` need not be more than the number of bits. -/
def column (maxSize last : Nat) :
    (fuel : Nat) → Groups → (front : List UInt8) → (count weight : Nat) → Array UInt8 →
      Decoder Fault (Array UInt8)
  | 0, _, _, _, _, _ => throw .starved
  | fuel + 1, g, front, count, weight, out => do
    let (n, g) ← symbol g
    if n < 2 then
      if maxWeight ≤ weight then fail .run
      column maxSize last fuel g front (count + (n + 1) * weight) (2 * weight) out
    else
      if 0 < count ∧ maxSize < out.size + count then fail .size
      let out := out ++ Array.replicate count (front.headD 0)
      if n = last then return out
      if maxSize ≤ out.size then fail .size
      let (b, front) := toFront (n - 1) front
      column maxSize last fuel g front 0 1 (out.push b)

/-! ## The bytes of a block -/

/-- For each place of the table, that of the rotation behind it: the places of the last column in
the order of their bytes. -/
def successors (column : Array UInt8) : Array Nat :=
  (column.toList.zipIdx.foldl
    (fun (places : Array (Array Nat)) (b, i) => places.modify b.toNat (·.push i))
    (Array.replicate 256 #[])).flatten

/-- The bytes met on the way from one rotation to the next. -/
def rotation (column : Array UInt8) (successors : Array Nat) :
    (length place : Nat) → Array UInt8 → Array UInt8
  | 0, _, out => out
  | n + 1, place, out =>
    rotation column successors n (successors.getD place 0) (out.push (column.getD place 0))

/-- The distances between the bytes that are changed in a block that is marked as random. -/
def disorder : List Nat :=
  [619, 720, 127, 481, 931, 816, 813, 233, 566, 247, 985, 724, 205, 454, 863, 491, 741, 242, 949,
   214, 733, 859, 335, 708, 621, 574, 73, 654, 730, 472, 419, 436, 278, 496, 867, 210, 399, 680,
   480, 51, 878, 465, 811, 169, 869, 675, 611, 697, 867, 561, 862, 687, 507, 283, 482, 129, 807,
   591, 733, 623, 150, 238, 59, 379, 684, 877, 625, 169, 643, 105, 170, 607, 520, 932, 727, 476,
   693, 425, 174, 647, 73, 122, 335, 530, 442, 853, 695, 249, 445, 515, 909, 545, 703, 919, 874,
   474, 882, 500, 594, 612, 641, 801, 220, 162, 819, 984, 589, 513, 495, 799, 161, 604, 958, 533,
   221, 400, 386, 867, 600, 782, 382, 596, 414, 171, 516, 375, 682, 485, 911, 276, 98, 553, 163,
   354, 666, 933, 424, 341, 533, 870, 227, 730, 475, 186, 263, 647, 537, 686, 600, 224, 469, 68,
   770, 919, 190, 373, 294, 822, 808, 206, 184, 943, 795, 384, 383, 461, 404, 758, 839, 887, 715,
   67, 618, 276, 204, 918, 873, 777, 604, 560, 951, 160, 578, 722, 79, 804, 96, 409, 713, 940, 652,
   934, 970, 447, 318, 353, 859, 672, 112, 785, 645, 863, 803, 350, 139, 93, 354, 99, 820, 908,
   609, 772, 154, 274, 580, 184, 79, 626, 630, 742, 653, 282, 762, 623, 680, 81, 927, 626, 789,
   125, 411, 521, 938, 300, 821, 78, 343, 175, 128, 250, 170, 774, 972, 275, 999, 639, 495, 78,
   352, 126, 857, 956, 358, 619, 580, 124, 737, 594, 701, 612, 669, 112, 134, 694, 363, 992, 809,
   743, 168, 974, 944, 375, 748, 52, 600, 747, 642, 182, 862, 81, 344, 805, 988, 739, 511, 655,
   814, 334, 249, 515, 897, 955, 664, 981, 649, 113, 974, 459, 893, 228, 433, 837, 553, 268, 926,
   240, 102, 654, 459, 51, 686, 754, 806, 760, 493, 403, 415, 394, 687, 700, 946, 670, 656, 610,
   738, 392, 760, 799, 887, 653, 978, 321, 576, 617, 626, 502, 894, 679, 243, 440, 680, 879, 194,
   572, 640, 724, 926, 56, 204, 700, 707, 151, 457, 449, 797, 195, 791, 558, 945, 679, 297, 59, 87,
   824, 713, 663, 412, 693, 342, 606, 134, 108, 571, 364, 631, 212, 174, 643, 304, 329, 343, 97,
   430, 751, 497, 314, 983, 374, 822, 928, 140, 206, 73, 263, 980, 736, 876, 478, 430, 305, 170,
   514, 364, 692, 829, 82, 855, 953, 676, 246, 369, 970, 294, 750, 807, 827, 150, 790, 288, 923,
   804, 378, 215, 828, 592, 281, 565, 555, 710, 82, 896, 831, 547, 261, 524, 462, 293, 465, 502,
   56, 661, 821, 976, 991, 658, 869, 905, 758, 745, 193, 768, 550, 608, 933, 378, 286, 215, 979,
   792, 961, 61, 688, 793, 644, 986, 403, 106, 366, 905, 644, 372, 567, 466, 434, 645, 210, 389,
   550, 919, 135, 780, 773, 635, 389, 707, 100, 626, 958, 165, 504, 920, 176, 193, 713, 857, 265,
   203, 50, 668, 108, 645, 990, 626, 197, 510, 357, 358, 850, 858, 364, 936, 638]

/-- Changes bytes back in a block that is marked as random. -/
def reorder (bytes : Array UInt8) : Array UInt8 :=
  let marks := disorder.flatMap fun n => List.replicate (n - 2) 0 ++ [1, 0]
  let rounds := bytes.size / marks.length + 1
  Array.zipWith (· ^^^ ·) bytes (List.replicate rounds marks).flatten.toArray

/-- Repeats the bytes whose number of further copies stands behind four equal ones.  `spare` stands
in for a number that is missing at the end. -/
def expand (spare : UInt8) : List UInt8 → Array UInt8 → Array UInt8 × Bool
  | a :: b :: c :: d :: rest, out =>
    if a = b ∧ b = c ∧ c = d then
      match rest with
      | [] => (out ++ Array.replicate (4 + spare.toNat) a, false)
      | n :: rest => expand spare rest (out ++ Array.replicate (4 + n.toNat) a)
    else expand spare (b :: c :: d :: rest) (out.push a)
  | few, out => (out ++ few.toArray, true)

/-- Takes a block, behind its mark, and gives its checksum. -/
def block (fuel level : Nat) : Decoder Fault UInt32 := do
  let sum ← takeChecksum
  let isRandom ← bit
  let origin ← numberDown 24
  let maxSize := 100000 * level
  if maxSize + 10 < origin then fail .origin
  let used ← usedBytes
  if used.isEmpty then fail .noBytes
  let codeCount ← numberDown 3
  if codeCount < 2 ∨ 6 < codeCount then fail .codeCount
  let groupCount ← numberDown 15
  if groupCount < 1 then fail .noGroups
  let groups ← groups codeCount groupCount (List.range codeCount)
  let codes ← codes fuel (used.length + 2) codeCount
  let inOrder := (groups.take maxGroups).filterMap fun n => codes[n]?
  let column ← column maxSize (used.length + 1) fuel ⟨⟨[], #[]⟩, 0, inOrder⟩ used 0 1 #[]
  if column.size ≤ origin then fail .origin
  -- one byte more than there are stands in for what is missing at the end
  let successors := successors column
  let bytes := rotation column successors (column.size + 1) (successors.getD origin 0) #[]
  let bytes := if isRandom then reorder bytes else bytes
  let (content, isWhole) := expand (bytes.back?.getD 0) bytes.pop.toList #[]
  content.forM emit
  if !isWhole then fail .unfinished
  if checksum content ≠ sum then fail .checksum
  return sum

/-- Takes blocks up to the end, where the checksum of those before is `sum`. -/
def blocks (bitCount level : Nat) : (fuel : Nat) → (sum : UInt32) → Decoder Fault Unit
  | 0, _ => throw .starved
  | fuel + 1, sum => do
    let mark ← numberDown 8
    if mark = 0x31 then
      expect [0x41, 0x59, 0x26, 0x53, 0x59]
      blocks bitCount level fuel (joinChecksum sum (← block bitCount level))
    else if mark = 0x17 then
      expect [0x72, 0x45, 0x38, 0x50, 0x90]
      if (← takeChecksum) ≠ sum then fail .checksum
    else fail .mark

/-- Takes the data from its mark on. -/
def stream (bitCount : Nat) : Decoder Fault Unit := do
  expect [0x42, 0x5A, 0x68]
  -- the digits from one to nine
  let level ← numberDown 8
  if level < 0x31 ∨ 0x39 < level then fail .mark
  blocks bitCount (level - 0x30) bitCount 0

/-- Unpacks data. -/
def run (packed : List UInt8) : Outcome Fault :=
  (stream (8 * packed.length + 1)).outcome (packed.map reverseBits)

end SectionTimes.Bzip2
