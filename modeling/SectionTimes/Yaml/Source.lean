import SectionTimes.Bytes.Utf8
import SectionTimes.Text.LineEnd
import SectionTimes.Yaml.Fault

/-!
# The text of a configuration file

A file is loaded in portions, and each portion is looked at when it is loaded.  So a portion that
is no text, or that holds a character which may not stand in a configuration file, is a fault only
for who reads as far as that portion: whatever is wrong before it is found first.
-/

namespace SectionTimes.Yaml

/-- Whether a character may stand in a configuration file. -/
def isAllowed (c : Char) : Bool :=
  c = '\t' || c = '\n' || c = '\r' || c = Char.ofNat 0x85 ||
    (0x20 ≤ c.toNat && c.toNat ≤ 0x7E) || (0xA0 ≤ c.toNat && c.toNat ≤ 0xFFFD) ||
    0x10000 ≤ c.toNat

/-- What can be read of a file. -/
structure Source where
  /-- The text up to the end, or up to the first portion with a fault. -/
  text : List Char
  /-- The fault of that portion, if there is one. -/
  ending : Option Fault
  deriving DecidableEq, Repr

namespace Source

/-- The number of characters in a portion. -/
def portion : Nat := 4096

/-- How many characters are loaded before the one at a place is; two portions are loaded at
first. -/
def loadedBefore (place : Nat) : Nat :=
  if place < 2 * portion then 0 else place / portion * portion

/-- The number of bytes that are taken from a file at a time, at least. -/
def blockBytes : Nat := 8192

/-- The text of a block of bytes, of which the first may go on with a character begun; with a
character begun at the end.  There is none if a place is malformed. -/
def decodeBlock (pending : Option Utf8.Pending) : List UInt8 →
    Option (List Char × Option Utf8.Pending)
  | [] => some ([], pending)
  | b :: bytes => do
    let (chars, pending) := Utf8.step pending b.toNat
    let chars ← chars.mapM id
    let (rest, pending) ← decodeBlock pending bytes
    return (chars ++ rest, pending)

/-- What is taken from a file so far. -/
structure Progress where
  bytes : List UInt8
  /-- A character that was begun. -/
  pending : Option Utf8.Pending
  /-- Whether there was a carriage return at the end, which a line feed may follow. -/
  isHeld : Bool
  /-- The number of bytes of the last block. -/
  blockSize : Nat
  /-- The number of characters that these gave. -/
  blockChars : Nat

/-- Takes a block, larger where the characters took many bytes up to now, for a portion that is
still short of some characters; with the text that it gives. -/
def Progress.takeBlock (p : Progress) (short : Nat) : Option (List Char × Progress) := do
  let size := max blockBytes (p.blockSize * short / p.blockChars)
  let (chars, pending) ← decodeBlock p.pending (p.bytes.take size)
  let chars := if p.isHeld then '\r' :: chars else chars
  let isHeld := chars.getLast? == some '\r'
  let text := Text.unifyEnds (if isHeld then chars.dropLast else chars)
  return (text, ⟨p.bytes.drop size, pending, isHeld, (p.bytes.take size).length, text.length⟩)

/-- The text that the blocks of a file give behind `count` characters, up to a malformed place;
with whether there is none. -/
def decodeFrom : (fuel count : Nat) → Progress → List Char × Bool
  | 0, _, p => (if p.isHeld then ['\n'] else [], p.pending.isNone)
  | fuel + 1, count, p =>
    if p.bytes.isEmpty then
      if p.pending.isSome then ([], false) else (if p.isHeld then ['\n'] else [], true)
    else
      match p.takeBlock (portion - count % portion) with
      | none => ([], false)
      | some (text, p) =>
        let (rest, isWhole) := decodeFrom fuel (count + text.length) p
        (text ++ rest, isWhole)

/-- What can be read of a text at whose end there may be a fault. -/
def ofText (text : List Char) (ending : Option Fault) : Source :=
  match text.findIdx? fun c => !isAllowed c with
  | none => ⟨text, ending⟩
  | some place => ⟨text.take (loadedBefore place), some .malformed⟩

/-- What can be read of the bytes of a file. -/
def ofBytes (bytes : List UInt8) : Source :=
  match decodeFrom bytes.length 0 ⟨bytes, none, false, 0, 0⟩ with
  | (text, true) => ofText text none
  | (text, false) => ofText (text.take (loadedBefore text.length)) (some .undecodable)

end Source

end SectionTimes.Yaml
