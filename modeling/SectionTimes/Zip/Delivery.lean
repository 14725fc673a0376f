import SectionTimes.Bytes.Checksum
import SectionTimes.Zip.Directory

/-!
# The delivery of a member

The data of a member is read and delivered in portions: more of the packed data is read when
little of it is left over, and a portion is made of what there is.  Delivery ends when the data is
made, when all packed data is taken, or when as much is delivered as the directory lists; then the
checksum is compared.  What is wrong with packed data behind that place is never found.
-/

namespace SectionTimes.Zip

open Unpacking (Outcome)

/-! ## Kinds of packing -/

/-- How the data of a member is packed. -/
inductive Packing where
  | plain
  | deflated
  | bzip2
  | lzma
  deriving DecidableEq, Repr

/-- The packings with their methods. -/
def Packing.methods : List (Nat × Packing) := [(0, plain), (8, deflated), (12, bzip2), (14, lzma)]

/-- What can be wrong with packed data. -/
inductive Fault where
  | deflated (fault : Inflate.Fault)
  | bzip2 (fault : Bzip2.Fault)
  | lzma (fault : Lzma.Fault)
  deriving DecidableEq, Repr

/-- The failure that a fault comes to. -/
def Fault.failure : Fault → Failure
  | .deflated fault => .damaged (.packed fault)
  | .bzip2 fault => .refused (.bzip2 fault)
  | .lzma fault => .refused (.lzma fault)

/-- What comes of data. -/
def Packing.outcome (p : Packing) (data : List UInt8) : Outcome Fault :=
  match p with
  | .plain => Unpacking.plain data
  | .deflated => (Inflate.run data).mapFault .deflated
  | .bzip2 => (Bzip2.run data).mapFault .bzip2
  | .lzma => (Lzma.run data).mapFault .lzma

/-! ## Portions -/

/-- The number of bytes that are wanted for a portion. -/
def portion : Nat := 8192

/-- The least number of packed bytes that are read at a time, and of bytes for which there is room
in a portion. -/
def leastPortion : Nat := 4096

/-- How far a delivery has come. -/
structure Delivery where
  /-- How many packed bytes are read. -/
  read : Nat
  /-- How many of them are taken. -/
  taken : Nat
  /-- How many bytes are made. -/
  made : Nat
  /-- How many bytes are wanted next. -/
  wanted : Nat
  wanted_pos : 0 < wanted
  /-- Whether nothing more comes. -/
  isOver : Bool
  deriving DecidableEq, Repr

namespace Delivery

/-- A delivery that has not begun. -/
def start : Delivery := ⟨0, 0, 0, portion, by decide, false⟩

/-- Reads packed data, unless there is enough left over or none is to come.  Of the `size` bytes
that there should be, there are `present`. -/
def readMore (size present : Nat) (d : Delivery) : Except Failure Delivery :=
  let left := d.read - d.taken
  if d.wanted ≤ left || size ≤ d.read then .ok d
  else
    let asked := min (max (d.wanted - left) leastPortion) (size - d.read)
    let found := min asked (present - d.read)
    if found = 0 then damaged .dataEnds else .ok { d with read := d.read + found }

/-- The end of the bytes that can be made from what is read, among those before a place. -/
def reach (o : Outcome Fault) (read upTo : Nat) : (fuel place : Nat) → Nat
  | 0, place => place
  | fuel + 1, place =>
    if place < upTo && o.made[place]?.any fun m => m.needs ≤ read then
      reach o read upTo fuel (place + 1)
    else place

/-- How the room for what is unpacked at once grows, in units of 1024 bytes. -/
def growth : List Nat :=
  [32, 64, 256, 1024, 4096, 8192, 16384, 16384, 32768, 32768, 32768, 32768, 65536, 65536, 131072,
   131072]

/-- How the room grows in the end, in bytes. -/
def lastGrowth : Nat := 262144 * 1024

/-- The room for `n` bytes, once it has grown to `room`. -/
def roomFor (n : Nat) : (growth : List Nat) → (room : Nat) → Nat
  | [], room => room + (n - room + lastGrowth - 1) / lastGrowth * lastGrowth
  | more :: growth, room =>
    if n ≤ room + 1024 * more then room + 1024 * more else roomFor n growth (room + 1024 * more)

/-- The place before which there is room for the bytes of a portion. -/
def limit (p : Packing) (o : Outcome Fault) (d : Delivery) : Nat :=
  match p with
  | .plain | .deflated => d.made + max d.wanted leastPortion
  | .bzip2 =>
    -- the room grows as long as not all data is taken, and so up to the last block
    let behind := reach o (d.read - 1) o.made.size o.made.size d.made
    d.made + roomFor (behind - d.made) growth 0
  | .lzma => d.made + o.made.size + portion

/-- Makes bytes for a portion from what is read, as far as there is room for them. -/
def makePortion (p : Packing) (o : Outcome Fault) (d : Delivery) : Except Failure Delivery :=
  let limit := d.limit p o
  let made := reach o d.read limit (limit - d.made) d.made
  let starved : Delivery := { d with made, taken := d.read }
  match o.made[made]? with
  | some next =>
    -- the next byte waits for room or for more data
    if made = limit && next.needs ≤ d.read then .ok { d with made, taken := next.taken }
    else .ok starved
  | none =>
    if d.read < o.used then .ok starved
    else
      match o.stop with
      | .starved => .ok starved
      | .finished => .ok { d with made, taken := o.used, isOver := true }
      | .faulty fault =>
        -- that a distance goes too far back is found only where there is room for the byte
        if made = limit && fault = .deflated .reach then .ok { d with made, taken := o.used }
        else .error fault.failure

/-- Ends a delivery once all packed data is taken, with all that can still be made of deflated
data. -/
def flush (p : Packing) (o : Outcome Fault) (size : Nat) (d : Delivery) : Delivery :=
  if !d.isOver && size ≤ d.read && d.taken = d.read then
    match p with
    | .plain | .deflated =>
      { d with made := reach o d.read o.made.size o.made.size d.made, isOver := true }
    | .bzip2 | .lzma => { d with isOver := true }
  else d

/-- How many bytes are wanted next where there were `wanted` before and `fresh` came.  Where more
came than were wanted, they are given out first. -/
def nextWanted (wanted fresh : Nat) : Nat :=
  if fresh = 0 then wanted
  else if wanted < fresh then portion - (fresh - wanted) % portion
  else portion

theorem nextWanted_pos {wanted : Nat} (h : 0 < wanted) (fresh : Nat) :
    0 < nextWanted wanted fresh := by
  have hportion : 0 < portion := by decide
  have hmod := Nat.mod_lt (fresh - wanted) hportion
  unfold nextWanted
  split
  · exact h
  · split <;> omega

/-- Gives out what is new since the place `before`. -/
def giveOut (before : Nat) (d : Delivery) : Delivery :=
  { d with
    wanted := nextWanted d.wanted (d.made - before)
    wanted_pos := nextWanted_pos d.wanted_pos _ }

/-- Delivers portions until nothing more comes, or until there are `length` bytes. -/
def run (p : Packing) (o : Outcome Fault) (size present length : Nat) :
    (fuel : Nat) → Delivery → Except Failure Delivery
  | 0, d => .ok d
  | fuel + 1, d => do
    let d' := (← makePortion p o (← readMore size present d)).flush p o size
    if d'.isOver || length ≤ d'.made then return d'
    run p o size present length fuel (d'.giveOut d.made)

end Delivery

/-- The bytes that a member delivers from the packed data that is present, whatever its checksum. -/
def Packing.deliver (p : Packing) (e : Entry) (packed : List UInt8) :
    Except Failure (List UInt8) := do
  let o := p.outcome packed
  let d ← Delivery.run p o e.packedSize packed.length e.size
    (packed.length + o.made.size + 2) .start
  return ((o.made.toList.take d.made).take e.size).map Unpacking.Made.byte

/-- Compares the bytes that a member delivered with its checksum. -/
def checkSum (e : Entry) (content : List UInt8) : Except Failure (List UInt8) :=
  if (Checksum.of content).toNat = e.checksum then .ok content else damaged (.checksum e.name)

end SectionTimes.Zip
