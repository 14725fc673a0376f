import SectionTimes.Text.Quoted
import SectionTimes.Zip.Bzip2
import SectionTimes.Zip.Inflate
import SectionTimes.Zip.Lzma

/-!
# Why an archive cannot be read

Either the archive is damaged, or it is given up: it asks for something that this library does not
do, or its data is of a kind for which no damage is told.
-/

namespace SectionTimes.Zip

open Text

/-- What is wrong with a damaged archive. -/
inductive Damage where
  /-- There is no record of where the directory stands. -/
  | noDirectory
  /-- The archive is a part of a greater one. -/
  | disks
  /-- The directory would begin before the archive. -/
  | directoryPlace
  | directoryEnds
  /-- An entry of the directory does not begin with its mark. -/
  | directoryMark
  /-- An extra field of an entry is longer than the room for it. -/
  | extraField (tag size : Nat)
  /-- A number of an entry should be in an extra field and is not. -/
  | wideNumber (name : String)
  | headerEnds
  /-- The header of a member does not begin with its mark. -/
  | headerMark
  /-- The directory and the header name a member differently. -/
  | otherName (listed : String) (header : List UInt8)
  /-- The data of a member goes into what follows it. -/
  | overlap (name : String)
  /-- The data of a member does not have the checksum listed. -/
  | checksum (name : String)
  /-- The deflated data of a member is faulty. -/
  | packed (fault : Inflate.Fault)
  | dataEnds
  deriving DecidableEq, Repr

/-- The wording of a damage. -/
def Damage.message : Damage → String
  | .noDirectory => "File is not a zip file"
  | .disks => "zipfiles that span multiple disks are not supported"
  | .directoryPlace => "Bad offset for central directory"
  | .directoryEnds => "Truncated central directory"
  | .directoryMark => "Bad magic number for central directory"
  | .extraField tag size =>
    "Corrupt extra field " ++ String.ofList (hexDigits 4 tag) ++ s!" (size={size})"
  | .wideNumber name => "Corrupt zip64 extra field. " ++ name ++ " not found."
  | .headerEnds => "Truncated file header"
  | .headerMark => "Bad magic number for file header"
  | .otherName listed header =>
    "File name in directory " ++ quote listed ++ " and header " ++ quoteBytes header ++ " differ."
  | .overlap name => "Overlapped entries: " ++ quote name ++ " (possible zip bomb)"
  | .checksum name => "Bad CRC-32 for file " ++ quote name
  | .packed fault => "Error -3 while decompressing data: " ++ fault.message
  | .dataEnds => ""

/-- For what an archive is given up. -/
inductive Refusal where
  /-- A name that is marked as UTF-8 and is none. -/
  | nameEncoding
  | version
  /-- Data in the form of changes to other data. -/
  | patch
  /-- Encryption of the whole archive. -/
  | strongEncryption
  | password
  /-- A packing method that is not known. -/
  | method
  /-- A header that stands before the archive, or behind all places that a file can have. -/
  | place
  /-- A header whose place is no number of 64 bits. -/
  | placeWidth
  | absent
  /-- Faulty data that is packed with bzip2. -/
  | bzip2 (fault : Bzip2.Fault)
  /-- Faulty data that is packed with LZMA. -/
  | lzma (fault : Lzma.Fault)
  deriving DecidableEq, Repr

/-- Why an archive cannot be read. -/
inductive Failure where
  | damaged (damage : Damage)
  | refused (refusal : Refusal)
  deriving DecidableEq, Repr

end SectionTimes.Zip
