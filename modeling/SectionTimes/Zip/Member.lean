import SectionTimes.Zip.Delivery

/-!
# The members of an archive

A member is read through its header, which has to agree with the directory.  Its data must not go
into the next header or the directory, and must have the checksum listed.
-/

namespace SectionTimes.Zip

/-- The mark of a header. -/
def headerMark : List UInt8 := [0x50, 0x4B, 3, 4]

/-- The length of a header without its name and extra fields. -/
def headerLength : Nat := 30

/-- The names of the members, in the order of the directory. -/
def Archive.names (a : Archive) : List String := a.entries.map Entry.name

/-- The last entry with a name, and the entries before it. -/
def findLast? (name : String) : List Entry → Option (List Entry × Entry)
  | [] => none
  | e :: es =>
    match findLast? name es with
    | some (before, found) => some (e :: before, found)
    | none => if e.name = name then some ([], e) else none

/-- The place before which the data of an entry has to end: the next header or the directory.
Of several entries with one place, all but the first have no room. -/
def Archive.limit (a : Archive) (before : List Entry) (e : Entry) : Int :=
  if before.any fun b => b.place = e.place then e.place
  else ((a.entries.map Entry.place).filter (e.place < ·)).min?.getD a.directory

/-- Half of the numbers of 64 bits. -/
def wideHalf : Int := 0x8000000000000000

/-- The last place that a file can have: as many blocks of 4096 bytes as numbers of 32 bits
count.  Where a file system has greater files, a header behind this place is a damage. -/
def lastPlace : Int := 0xFFFFFFFF * 4096

/-- Opens the member of an entry, which stands behind the entries `before`: how it is packed, and
its packed data. -/
def Archive.openEntry (a : Archive) (before : List Entry) (e : Entry) :
    Except Failure (Packing × List UInt8) := do
  if e.place < -wideHalf ∨ wideHalf ≤ e.place then refused .placeWidth
  if e.place < 0 ∨ lastPlace < e.place then refused .place
  let place := e.place.toNat
  let header := slice a.bytes place headerLength
  if header.length < headerLength then damaged .headerEnds
  if !headerMark.isPrefixOf header then damaged .headerMark
  let nameLength := fieldAt header 26 2
  let name := slice a.bytes (place + headerLength) nameLength
  if e.flags.testBit 5 then refused .patch
  if e.flags.testBit 6 then refused .strongEncryption
  -- here the flags of the header count, and all other flags are those of the directory
  if (← decodeName (fieldAt header 6 2) name) ≠ e.fullName then damaged (.otherName e.fullName name)
  let start := min a.bytes.length (place + headerLength + nameLength + fieldAt header 28 2)
  if a.limit before e < start + e.packedSize then damaged (.overlap e.fullName)
  if e.flags.testBit 0 then refused .password
  match Packing.methods.lookup e.method with
  | none => refused .method
  | some packing => return (packing, slice a.bytes start e.packedSize)

/-- The bytes that the member of an entry delivers, whatever its checksum. -/
def Archive.deliver (a : Archive) (before : List Entry) (e : Entry) :
    Except Failure (List UInt8) := do
  let (packing, packed) ← a.openEntry before e
  packing.deliver e packed

/-- The data of the member of an entry. -/
def Archive.readEntry (a : Archive) (before : List Entry) (e : Entry) :
    Except Failure (List UInt8) := do
  checkSum e (← a.deliver before e)

/-- The data of a member; of several members with one name it is the last. -/
def Archive.read (a : Archive) (name : String) : Except Failure (List UInt8) :=
  match findLast? name a.entries with
  | some (before, e) => a.readEntry before e
  | none => refused .absent

end SectionTimes.Zip
