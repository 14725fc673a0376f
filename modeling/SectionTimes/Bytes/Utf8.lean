/-!
# Text in UTF-8

The reader goes through the bytes one by one.  Bytes that begin no character, or that begin one
which the next byte cannot continue, are read as one malformed place; the byte that could not
continue is then read on its own.  Read leniently, a malformed place becomes the replacement
character; read strictly, it makes the whole undecodable.
-/

namespace SectionTimes.Utf8

/-- A character of which some bytes are still to come. -/
structure Pending where
  /-- The bits read so far. -/
  bits : Nat
  /-- The least byte that may come next. -/
  least : Nat
  /-- The greatest byte that may come next. -/
  greatest : Nat
  /-- How many bytes come behind the next one. -/
  more : Nat
  deriving DecidableEq, Repr

/-- What one byte leads to: characters read, `none` standing for a malformed place, and a
character begun. -/
abbrev Step := List (Option Char) × Option Pending

/-- A byte read on its own. -/
def lead (b : Nat) : Step :=
  if b < 0x80 then ([some (Char.ofNat b)], none)
  else if b < 0xC2 then ([none], none)
  else if b < 0xE0 then ([], some ⟨b - 0xC0, 0x80, 0xBF, 0⟩)
  else if b < 0xF0 then
    ([], some ⟨b - 0xE0, if b = 0xE0 then 0xA0 else 0x80, if b = 0xED then 0x9F else 0xBF, 1⟩)
  else if b < 0xF5 then
    ([], some ⟨b - 0xF0, if b = 0xF0 then 0x90 else 0x80, if b = 0xF4 then 0x8F else 0xBF, 2⟩)
  else ([none], none)

/-- A byte read where a character may have been begun. -/
def step (pending : Option Pending) (b : Nat) : Step :=
  match pending with
  | none => lead b
  | some p =>
    if p.least ≤ b ∧ b ≤ p.greatest then
      let bits := p.bits * 64 + (b - 0x80)
      if p.more = 0 then ([some (Char.ofNat bits)], none)
      else ([], some ⟨bits, 0x80, 0xBF, p.more - 1⟩)
    else (none :: (lead b).1, (lead b).2)

/-- The characters of a run of bytes, with `none` for each malformed place. -/
def places (pending : Option Pending) : List UInt8 → List (Option Char)
  | [] => if pending.isSome then [none] else []
  | b :: bs => (step pending b.toNat).1 ++ places (step pending b.toNat).2 bs

/-- What a malformed place is shown as. -/
def replacement : Char := Char.ofNat 0xFFFD

/-- The text of a run of bytes, read leniently. -/
def decode (bytes : List UInt8) : List Char := (places none bytes).map fun c => c.getD replacement

/-- The text of a run of bytes, unless it has a malformed place. -/
def decode? (bytes : List UInt8) : Option (List Char) :=
  if (places none bytes).all Option.isSome then some ((places none bytes).filterMap id) else none

/-- The bytes of a text. -/
def encode (s : String) : List UInt8 := s.toUTF8.toList

end SectionTimes.Utf8
