import SectionTimes.Bytes.Field
import SectionTimes.Zip.Unpacking

/-!
# Unpacking LZMA

The data is one long number that tells choices: of the range that is left, a choice takes the part
that its chance gives it, and chances follow what was chosen.  The choices make bytes, or the
lengths and distances of earlier parts to be repeated, of which the last four distances are kept.
The data ends at a mark.
-/

namespace SectionTimes.Lzma

open Unpacking

/-- What can be wrong with the data. -/
inductive Fault where
  /-- The properties at the beginning are none. -/
  | properties
  | data
  deriving DecidableEq, Repr

/-- How the data is to be taken. -/
structure Properties where
  /-- How many bits of the byte before tell the chances of a byte apart. -/
  contextBits : Nat
  /-- How many bits of its place do. -/
  bytePlaceBits : Nat
  /-- How many bits of the place tell the chances of other choices apart. -/
  placeBits : Nat
  /-- How far back a distance may go. -/
  reach : Nat
  deriving DecidableEq, Repr

/-- The least reach. -/
def leastReach : Nat := 4096

/-- Reads properties. -/
def Properties.ofBytes? (bytes : List UInt8) : Option Properties :=
  let bits := fieldAt bytes 0 1
  let size := max (fieldAt bytes 1 4) leastReach
  if bytes.length ≠ 5 ∨ 9 * 5 * 5 ≤ bits ∨ 4 < bits % 9 + bits / 9 % 5 then none
  else
    some
      { contextBits := bits % 9
        bytePlaceBits := bits / 9 % 5
        placeBits := bits / (9 * 5)
        -- whole sixteens are kept
        reach := (size + 15) / 16 * 16 }

/-! ## Choices -/

/-- The place in the number, and the chances. -/
structure Coder where
  /-- The length of the range that is left. -/
  range : UInt32
  /-- The place of the number in it. -/
  code : UInt32
  /-- The chances that a choice is the first, in parts of 2048. -/
  chances : Array UInt32

/-- A step of taking choices. -/
abbrev Chooser := StateT Coder (Decoder Fault)

/-- Takes a byte. -/
def byte : Decoder Fault UInt8 := do return UInt8.ofNat (← number 8)

/-- The range below which another byte of the number is taken. -/
def leastRange : UInt32 := 0x1000000

/-- Takes another byte of the number when little of the range is left. -/
def refill : Chooser Unit := do
  if (← get).range < leastRange then
    let b ← byte
    modify fun (c : Coder) =>
      { c with range := c.range <<< 8, code := (c.code <<< 8) ||| b.toUInt32 }

/-- Takes a choice whose chance stands at a place. -/
def choose (place : Nat) : Chooser Bool := do
  refill
  modifyGet fun (c : Coder) =>
    let chance := c.chances.getD place 0
    let bound := (c.range >>> 11) * chance
    if c.code < bound then
      let chance := chance + ((2048 - chance) >>> 5)
      (false, { c with range := bound, chances := c.chances.setIfInBounds place chance })
    else
      let chance := chance - (chance >>> 5)
      (true, ⟨c.range - bound, c.code - bound, c.chances.setIfInBounds place chance⟩)

/-- Takes a choice without a chance of its own. -/
def chooseEven : Chooser Bool := do
  refill
  modifyGet fun (c : Coder) =>
    let range := c.range >>> 1
    let rest := c.code - range
    if rest < 0x80000000 then (true, { c with range, code := rest }) else (false, { c with range })

/-- Takes `n` even choices as a number, its highest bit first. -/
def evenNumber : Nat → Nat → Chooser Nat
  | 0, high => return high
  | n + 1, high => do evenNumber n (2 * high + (← chooseEven).toNat)

/-- Takes a number of `n` bits, its highest bit first.  The chance of a bit depends on `high`, the
bits before it behind a one. -/
def tree (place : Nat) : Nat → Nat → Chooser Nat
  | 0, high => return high
  | n + 1, high => do tree place n (2 * high + (← choose (place + high)).toNat)

/-- Takes a number of `n` bits, its lowest bit first. -/
def treeUp (place : Nat) : Nat → Nat → Chooser Nat
  | 0, _ => return 0
  | n + 1, before => do
    let low := (← choose (place + before)).toNat
    return low + 2 * (← treeUp place n (2 * before + low))

/-! ## The places of the chances -/

namespace Chance

/-- That a repeated part comes, and not a byte. -/
def isRepeat (state place : Nat) : Nat := 16 * state + place

/-- That its distance is one of those kept. -/
def isKept (state : Nat) : Nat := 192 + state

/-- That it is not the last distance. -/
def isOlder (state : Nat) : Nat := 204 + state

/-- That it is neither the last distance nor the second. -/
def isThird (state : Nat) : Nat := 216 + state

/-- That it is the fourth distance, and none of the others. -/
def isFourth (state : Nat) : Nat := 228 + state

/-- That more than one byte is repeated from the last distance. -/
def isLong (state place : Nat) : Nat := 240 + 16 * state + place

/-- The scale of a distance, for a part of a given length. -/
def scale (length : Nat) : Nat := 432 + 64 * min (length - 2) 3

/-- The low bits of a small distance. -/
def small : Nat := 688

/-- The lowest bits of a great distance. -/
def lowest : Nat := 816

/-- The length of a part whose distance is new. -/
def length : Nat := 832

/-- The length of a part whose distance is kept. -/
def keptLength : Nat := 1346

/-- A byte in a given context. -/
def literal (context : Nat) : Nat := 1860 + 0x300 * context

/-- How many chances there are. -/
def count (p : Properties) : Nat := literal (1 <<< (p.contextBits + p.bytePlaceBits))

end Chance

/-! ## Bytes and repeated parts -/

/-- What was taken last. -/
structure History where
  /-- The kinds of the last choices, in one of twelve classes.  In the first seven a byte was the
  last. -/
  state : Nat
  /-- The last four distances. -/
  last : Nat
  second : Nat
  third : Nat
  fourth : Nat
  deriving DecidableEq, Repr

namespace History

/-- Whether a byte was taken last. -/
def isAfterByte (h : History) : Bool := h.state < 7

/-- Behind a byte. -/
def byte (h : History) : History :=
  { h with state := if h.state < 4 then 0 else if h.state < 10 then h.state - 3 else h.state - 6 }

/-- Behind a part: the class is one of two. -/
def part (h : History) (afterByte afterPart : Nat) : History :=
  { h with state := if h.isAfterByte then afterByte else afterPart }

/-- The distance is new. -/
def push (h : History) (distance : Nat) : History :=
  { h with last := distance, second := h.last, third := h.second, fourth := h.third }

end History

/-- The byte from `distance` back, zero before the beginning. -/
def byteBack (out : Array Made) (distance : Nat) : UInt8 :=
  if out.size < distance then 0 else (out[out.size - distance]?.map Made.byte).getD 0

/-- Takes a byte like another one: as long as its bits are those of the other, their chances depend
on it. -/
def likeByte (place : Nat) : (n other high : Nat) → Chooser Nat
  | 0, _, high => return high
  | n + 1, other, high => do
    let expected := other.testBit n
    let bit ← choose (place + 0x100 * (1 + expected.toNat) + high)
    if bit = expected then likeByte place n other (2 * high + bit.toNat)
    else tree place n (2 * high + bit.toNat)

/-- Takes a byte. -/
def literal (p : Properties) (h : History) : Chooser Unit := do
  let out := (← getThe State).out
  let before := (byteBack out 1).toNat
  let context :=
    (out.size % 1 <<< p.bytePlaceBits) <<< p.contextBits + before >>> (8 - p.contextBits)
  let place := Chance.literal context
  let n ←
    if h.isAfterByte then tree place 8 1
    else likeByte place 8 (byteBack out (h.last + 1)).toNat 1
  (emit (UInt8.ofNat n) : Decoder Fault Unit)

/-- Takes a length. -/
def takeLength (chances place : Nat) : Chooser Nat := do
  if !(← choose chances) then return 2 + (← tree (chances + 2 + 8 * place) 3 1) - 8
  if !(← choose (chances + 1)) then return 10 + (← tree (chances + 130 + 8 * place) 3 1) - 8
  return 18 + (← tree (chances + 258) 8 1) - 0x100

/-- Takes a distance for a part of a given length. -/
def distance (length : Nat) : Chooser Nat := do
  let scale := (← tree (Chance.scale length) 6 1) - 64
  if scale < 4 then return scale
  let width := scale / 2 - 1
  let high := (2 + scale % 2) <<< width
  if scale < 14 then return high + (← treeUp (Chance.small + high - scale - 1) width 1)
  let middle ← evenNumber (width - 4) 0
  return high + 16 * middle + (← treeUp Chance.lowest 4 1)

/-- The distance that marks the end. -/
def endDistance : Nat := 0xFFFFFFFF

/-- Repeats a part. -/
def repeatPart (h : History) (length : Nat) : Chooser (Option History) := do
  (repeatBack (h.last + 1) length : Decoder Fault Unit)
  return some h

/-- Takes a part whose distance is new; `none` at the end. -/
def newPart (p : Properties) (h : History) (place : Nat) : Chooser (Option History) := do
  let length ← takeLength Chance.length place
  let h := (h.part 7 10).push (← distance length)
  if h.last = endDistance then
    refill
    if (← get).code ≠ 0 then throw (.faulty .data)
    return none
  if min (← getThe State).out.size p.reach ≤ h.last then throw (.faulty .data)
  repeatPart h length

/-- Takes one of the distances kept but for the last. -/
def olderDistance (h : History) : Chooser History := do
  if !(← choose (Chance.isThird h.state)) then return { h with last := h.second, second := h.last }
  if !(← choose (Chance.isFourth h.state)) then
    return { h with last := h.third, second := h.last, third := h.second }
  return h.push h.fourth

/-- Takes a part whose distance is kept. -/
def keptPart (h : History) (place : Nat) : Chooser (Option History) := do
  if (← getThe State).out.isEmpty then throw (.faulty .data)
  if ← choose (Chance.isOlder h.state) then
    let h := (← olderDistance h).part 8 11
    repeatPart h (← takeLength Chance.keptLength place)
  else if ← choose (Chance.isLong h.state place) then
    repeatPart (h.part 8 11) (← takeLength Chance.keptLength place)
  else repeatPart (h.part 9 11) 1

/-- Takes a byte or a part; `none` at the end. -/
def step (p : Properties) (h : History) : Chooser (Option History) := do
  let place := (← getThe State).out.size % 1 <<< p.placeBits
  if !(← choose (Chance.isRepeat h.state place)) then
    literal p h
    return some h.byte
  if ← choose (Chance.isKept h.state) then keptPart h place else newPart p h place

/-- Takes bytes and parts up to the end. -/
def steps (p : Properties) : (fuel : Nat) → History → Chooser Unit
  | 0, _ => throw .starved
  | fuel + 1, h => do
    match ← step p h with
    | some h => steps p fuel h
    | none => return

/-- Takes `n` bytes. -/
def bytes : Nat → Decoder Fault (List UInt8)
  | 0 => pure []
  | n + 1 => do return (← byte) :: (← bytes n)

/-- Takes the data from its header on. -/
def stream (fuel : Nat) : Decoder Fault Unit := do
  -- the version of the packer is not looked at
  let header ← bytes 4
  let properties ← bytes (fieldAt header 2 2)
  -- nor are the properties before there is more
  let first ← byte
  match Properties.ofBytes? properties with
  | none => fail .properties
  | some p =>
    if first ≠ 0 then fail .data
    let code := (← bytes 4).foldl (fun (code : UInt32) (b : UInt8) => (code <<< 8) ||| b.toUInt32) 0
    let coder := ⟨0xFFFFFFFF, code, Array.replicate (Chance.count p) 1024⟩
    discard ((steps p fuel ⟨0, 0, 0, 0, 0⟩).run coder)

/-- Unpacks data.  A choice takes more than a four-hundredth of a byte, and no more can be made than
there are. -/
def run (packed : List UInt8) : Outcome Fault :=
  (stream (400 * (packed.length + 1))).outcome packed

end SectionTimes.Lzma
