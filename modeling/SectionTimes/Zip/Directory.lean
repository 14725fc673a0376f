import SectionTimes.Bytes.CodePage
import SectionTimes.Bytes.Field
import SectionTimes.Bytes.Utf8
import SectionTimes.Zip.Failure

/-!
# The directory of an archive

An archive ends with a directory of its members and a record that says how long the directory is
and where it begins.  The archive may stand behind other data: the directory is looked for where
the record stands, and all places are moved by as much as it is off.  Numbers of more than 32 bits
stand in records and extra fields of their own.
-/

namespace SectionTimes.Zip

/-- A member as the directory lists it. -/
structure Entry where
  /-- The name, up to its first null character. -/
  name : String
  /-- The name as it is written. -/
  fullName : String
  /-- The bits that say how the member is stored. -/
  flags : Nat
  method : Nat
  checksum : Nat
  /-- The length of the packed data. -/
  packedSize : Nat
  /-- The length of the data. -/
  size : Nat
  /-- The place of the header. -/
  place : Int
  deriving DecidableEq, Repr

/-- An archive whose directory is read. -/
structure Archive where
  bytes : List UInt8
  /-- The place at which the directory begins. -/
  directory : Nat
  entries : List Entry
  deriving DecidableEq, Repr

/-- Stops at a damage. -/
def damaged {α : Type} (d : Damage) : Except Failure α := .error (.damaged d)

/-- Stops at a request. -/
def refused {α : Type} (r : Refusal) : Except Failure α := .error (.refused r)

/-- The bit of the flags that marks a name as UTF-8. -/
def utf8Flag : Nat := 11

/-- A name in the encoding that the flags give. -/
def decodeName (flags : Nat) (bytes : List UInt8) : Except Failure String :=
  if flags.testBit utf8Flag then
    match Utf8.decode? bytes with
    | some s => .ok (String.ofList s)
    | none => refused .nameEncoding
  else .ok (String.ofList (CodePage.decode bytes))

/-! ## The closing record -/

/-- The mark of the closing record. -/
def closingMark : List UInt8 := [0x50, 0x4B, 5, 6]

/-- The length of the closing record without its comment. -/
def closingLength : Nat := 22

/-- The greatest length of the comment in the closing record. -/
def maxComment : Nat := 65536

/-- The last place at which a mark stands. -/
def lastPlace? (mark : List UInt8) : List UInt8 → Option Nat
  | [] => none
  | b :: bs =>
    match lastPlace? mark bs with
    | some i => some (i + 1)
    | none => if mark.isPrefixOf (b :: bs) then some 0 else none

/-- The place of the closing record: the end of the archive, if a record without a comment
stands there, and otherwise the last place with its mark that a comment could follow. -/
def closingPlace? (bytes : List UInt8) : Option Nat :=
  let atEnd := bytes.length - closingLength
  let record := bytes.drop atEnd
  if bytes.length < closingLength then none
  else if closingMark.isPrefixOf record && fieldAt record 20 2 == 0 then some atEnd
  else
    let start := bytes.length - (maxComment + closingLength)
    match lastPlace? closingMark (bytes.drop start) with
    | none => none
    | some i => if bytes.length < start + i + closingLength then none else some (start + i)

/-- Where a directory stands. -/
structure Extent where
  /-- The place behind it. -/
  stop : Nat
  size : Nat
  /-- The place at which it should begin. -/
  offset : Nat
  deriving DecidableEq, Repr

/-- The mark of the record before the closing record that tells of a wide closing record. -/
def locatorMark : List UInt8 := [0x50, 0x4B, 6, 7]

/-- The length of that record. -/
def locatorLength : Nat := 20

/-- The mark of a wide closing record. -/
def wideMark : List UInt8 := [0x50, 0x4B, 6, 6]

/-- The length of a wide closing record. -/
def wideLength : Nat := 56

/-- Reads where the directory stands, from the closing record or from the wide one before it. -/
def readExtent (bytes : List UInt8) (closing : Nat) : Except Failure Extent :=
  let record := bytes.drop closing
  let narrow := ⟨closing, fieldAt record 12 4, fieldAt record 16 4⟩
  let locator := bytes.drop (closing - locatorLength)
  if closing < locatorLength || !locatorMark.isPrefixOf locator then .ok narrow
  else if fieldAt locator 4 4 ≠ 0 || 1 < fieldAt locator 16 4 then damaged .disks
  else if closing < locatorLength + wideLength then damaged .noDirectory
  else
    let start := closing - locatorLength - wideLength
    let wide := bytes.drop start
    .ok (if wideMark.isPrefixOf wide then ⟨start, fieldAt wide 40 8, fieldAt wide 48 8⟩ else narrow)

/-! ## Entries -/

/-- The mark of an entry. -/
def entryMark : List UInt8 := [0x50, 0x4B, 1, 2]

/-- The length of an entry without its name, extra fields and comment. -/
def entryLength : Nat := 46

/-- The latest version of the format that is read. -/
def maxVersion : Nat := 63

/-- The number that stands for one of more than 32 bits. -/
def narrowMax : Nat := 0xFFFFFFFF

/-- The greatest number of 64 bits; it too stands for another one. -/
def wideMax : Nat := 0xFFFFFFFFFFFFFFFF

/-- The tag of the extra field with wide numbers. -/
def wideTag : Nat := 1

/-- A number of an entry, which stands in an extra field if it `isWide`, and what is left of the
field. -/
def takeWide (name : String) (isWide : Bool) (given : Nat) (field : List UInt8) :
    Except Failure (Nat × List UInt8) :=
  if !isWide then .ok (given, field)
  else if field.length < 8 then damaged (.wideNumber name)
  else .ok (fieldAt field 0 8, field.drop 8)

/-- Reads the wide numbers of an entry. -/
def readWide (field : List UInt8) (e : Entry) : Except Failure Entry := do
  let (size, field) ← takeWide "File size" (e.size = narrowMax || e.size = wideMax) e.size field
  let (packedSize, field) ←
    takeWide "Compress size" (e.packedSize = narrowMax) e.packedSize field
  let (place, _) ← takeWide "Header offset" (e.place = narrowMax) e.place.toNat field
  return { e with size, packedSize, place }

/-- Reads the extra fields of an entry, which have to fill their room. -/
def readExtra (extra : List UInt8) (e : Entry) : Except Failure Entry :=
  if extra.length < 4 then .ok e
  else
    let tag := fieldAt extra 0 2
    let size := fieldAt extra 2 2
    if extra.length < size + 4 then damaged (.extraField tag size)
    else
      (if tag = wideTag then readWide (slice extra 4 size) e else .ok e) >>=
        readExtra (extra.drop (size + 4))
termination_by extra.length
decreasing_by simp only [List.length_drop]; omega

/-- Reads entries from the bytes of a directory of which `left` bytes are still to be gone
through; `shift` is by how much all places are off. -/
def readEntries (shift : Int) (left : Nat) (bytes : List UInt8) : Except Failure (List Entry) := do
  if left = 0 then return []
  if bytes.length < entryLength then damaged .directoryEnds
  else
    if !entryMark.isPrefixOf bytes then damaged .directoryMark
    let nameLength := fieldAt bytes 28 2
    let extraLength := fieldAt bytes 30 2
    let length := entryLength + nameLength + extraLength + fieldAt bytes 32 2
    let flags := fieldAt bytes 8 2
    let fullName ← decodeName flags (slice bytes entryLength nameLength)
    if maxVersion < fieldAt bytes 6 1 then refused .version
    let entry ← readExtra (slice bytes (entryLength + nameLength) extraLength)
      { name := String.ofList (fullName.toList.takeWhile fun c => c.toNat ≠ 0)
        fullName
        flags
        method := fieldAt bytes 10 2
        checksum := fieldAt bytes 16 4
        packedSize := fieldAt bytes 20 4
        size := fieldAt bytes 24 4
        place := fieldAt bytes 42 4 }
    let entry := { entry with place := entry.place + shift }
    return entry :: (← readEntries shift (left - length) (bytes.drop length))
termination_by bytes.length
decreasing_by simp only [List.length_drop, entryLength] at *; omega

/-- Reads the directory of an archive. -/
def Archive.ofBytes (bytes : List UInt8) : Except Failure Archive := do
  match closingPlace? bytes with
  | none => damaged .noDirectory
  | some closing =>
    let extent ← readExtent bytes closing
    if extent.stop < extent.size then damaged .directoryPlace
    -- the directory ends where the record begins, whatever place the record gives
    let start := extent.stop - extent.size
    let entries ← readEntries ((start : Int) - extent.offset) extent.size
      (slice bytes start extent.size)
    return ⟨bytes, start, entries⟩

end SectionTimes.Zip
