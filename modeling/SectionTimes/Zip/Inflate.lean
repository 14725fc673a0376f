import SectionTimes.Zip.Unpacking

/-!
# Inflating deflated data

Deflated data is a sequence of blocks.  A block holds bytes as they are, or symbols of a prefix
code: a symbol is a byte, the end of the block, or the length of an earlier part to be repeated,
whose distance follows.
-/

namespace SectionTimes.Inflate

open Unpacking

/-- What can be wrong with deflated data. -/
inductive Fault where
  | blockKind
  /-- A plain block whose length does not agree with its complement. -/
  | storedLength
  /-- A code for more symbols or distances than there are. -/
  | symbolCount
  /-- The code for code lengths is no prefix code. -/
  | lengthCode
  /-- A code length is repeated where none stands before, or too often. -/
  | lengthRepeat
  /-- The end of the block has no code. -/
  | noBlockEnd
  /-- The code for symbols is no prefix code. -/
  | symbolCode
  /-- The code for distances is no prefix code. -/
  | distanceCode
  /-- Bits that are the code of no symbol. -/
  | symbol
  /-- Bits that are the code of no distance. -/
  | distance
  /-- A distance that goes back before the beginning. -/
  | reach
  deriving DecidableEq, Repr

/-- The wording of a fault. -/
def Fault.message : Fault → String
  | .blockKind => "invalid block type"
  | .storedLength => "invalid stored block lengths"
  | .symbolCount => "too many length or distance symbols"
  | .lengthCode => "invalid code lengths set"
  | .lengthRepeat => "invalid bit length repeat"
  | .noBlockEnd => "invalid code -- missing end-of-block"
  | .symbolCode => "invalid literal/lengths set"
  | .distanceCode => "invalid distances set"
  | .symbol => "invalid literal/length code"
  | .distance => "invalid distance code"
  | .reach => "invalid distance too far back"

/-! ## Blocks -/

/-- The symbols of a block without codes of its own. -/
def fixedSymbols : Code :=
  Code.ofLengths (List.replicate 144 8 ++ List.replicate 112 9 ++ List.replicate 24 7 ++
    List.replicate 8 8)

/-- The distances of a block without codes of its own. -/
def fixedDistances : Code := Code.ofLengths (List.replicate 32 5)

/-- The least length of each length symbol, and how many bits are added to it. -/
def lengthSteps : List (Nat × Nat) :=
  [(3, 0), (4, 0), (5, 0), (6, 0), (7, 0), (8, 0), (9, 0), (10, 0), (11, 1), (13, 1), (15, 1),
   (17, 1), (19, 2), (23, 2), (27, 2), (31, 2), (35, 3), (43, 3), (51, 3), (59, 3), (67, 4),
   (83, 4), (99, 4), (115, 4), (131, 5), (163, 5), (195, 5), (227, 5), (258, 0)]

/-- The least distance of each distance symbol, and how many bits are added to it. -/
def distanceSteps : List (Nat × Nat) :=
  [(1, 0), (2, 0), (3, 0), (4, 0), (5, 1), (7, 1), (9, 2), (13, 2), (17, 3), (25, 3), (33, 4),
   (49, 4), (65, 5), (97, 5), (129, 6), (193, 6), (257, 7), (385, 7), (513, 8), (769, 8),
   (1025, 9), (1537, 9), (2049, 10), (3073, 10), (4097, 11), (6145, 11), (8193, 12),
   (12289, 12), (16385, 13), (24577, 13)]

/-- Takes the distance behind a length, and repeats. -/
def earlier (distances : Code) (length : Nat) : Decoder Fault Unit := do
  match (← distances.take).bind fun d => distanceSteps[d]? with
  | none => fail .distance
  | some (least, width) =>
    let distance := least + (← number width)
    if (← get).out.size < distance then fail .reach
    repeatBack distance length

/-- Takes symbols up to the end of the block.  Each takes a bit, so that `fuel` need not be more
than the number of bits. -/
def symbols (code distances : Code) : Nat → Decoder Fault Unit
  | 0 => throw .starved
  | fuel + 1 => do
    match ← code.take with
    | none => fail .symbol
    | some n =>
      if n < 256 then
        emit (UInt8.ofNat n)
        symbols code distances fuel
      else if n = 256 then return
      else
        match lengthSteps[n - 257]? with
        | none => fail .symbol
        | some (least, width) =>
          earlier distances (least + (← number width))
          symbols code distances fuel

/-- Takes `n` bytes as they are. -/
def copy : Nat → Decoder Fault Unit
  | 0 => pure ()
  | n + 1 => do
    -- there has to be room for a plain byte before it is taken
    let taken := (← get).used
    emitAfter taken (UInt8.ofNat (← number 8))
    copy n

/-- Takes a plain block: it begins at a whole byte. -/
def stored : Decoder Fault Unit := do
  modify fun s => { s with bits := [] }
  let length ← number 16
  let complement ← number 16
  if length + complement ≠ 0xFFFF then fail .storedLength
  copy length

/-- The order in which the lengths of the codes for code lengths are given. -/
def lengthOrder : List Nat := [16, 17, 18, 0, 8, 7, 9, 6, 10, 5, 11, 4, 12, 3, 13, 2, 14, 1, 15]

/-- Takes `n` numbers of three bits. -/
def triples : Nat → Decoder Fault (List Nat)
  | 0 => pure []
  | n + 1 => do return (← number 3) :: (← triples n)

/-- Takes code lengths until there are `total`; `done` are those taken, the last one first. -/
def codeLengths (code : Code) (total : Nat) : Nat → List Nat → Decoder Fault (List Nat)
  | 0, done => return done.reverse
  | fuel + 1, done => do
    if total ≤ done.length then return done.reverse
    let n := (← code.take).getD 0
    if n < 16 then codeLengths code total fuel (n :: done)
    else
      let (length, times) ←
        if n = 16 then do
          let times := 3 + (← number 2)
          match done with
          | [] => fail .lengthRepeat
          | length :: _ => pure (length, times)
        else if n = 17 then do pure (0, 3 + (← number 3))
        else do pure (0, 11 + (← number 7))
      if total < done.length + times then fail .lengthRepeat
      codeLengths code total fuel (List.replicate times length ++ done)

/-- Takes the codes of a block that has its own: the code for symbols and that for distances. -/
def ownCodes : Decoder Fault (Code × Code) := do
  let symbolCount := 257 + (← number 5)
  let distanceCount := 1 + (← number 5)
  let lengthCount := 4 + (← number 4)
  if 286 < symbolCount ∨ 30 < distanceCount then fail .symbolCount
  let given := lengthOrder.zip (← triples lengthCount)
  let lengthCode := Code.ofLengths ((List.range 19).map fun n => (given.lookup n).getD 0)
  if !(lengthCode.isComplete || lengthCode.isEmpty) then fail .lengthCode
  let total := symbolCount + distanceCount
  let lengths ← codeLengths lengthCode total total []
  -- symbol 256 ends the block
  if lengths[256]?.getD 0 = 0 then fail .noBlockEnd
  let code := Code.ofLengths (lengths.take symbolCount)
  if !code.isUsable then fail .symbolCode
  let distances := Code.ofLengths (lengths.drop symbolCount)
  if !distances.isUsable then fail .distanceCode
  return (code, distances)

/-- Takes blocks up to the last one. -/
def blocks (bitCount : Nat) : Nat → Decoder Fault Unit
  | 0 => throw .starved
  | fuel + 1 => do
    let last ← bit
    match ← number 2 with
    | 0 => stored
    | 1 => symbols fixedSymbols fixedDistances bitCount
    | 2 =>
      let (code, distances) ← ownCodes
      symbols code distances bitCount
    | _ => fail .blockKind
    if last then return
    blocks bitCount fuel

/-- Inflates deflated data. -/
def run (packed : List UInt8) : Outcome Fault :=
  let bitCount := 8 * packed.length + 1
  (blocks bitCount bitCount).outcome packed

end SectionTimes.Inflate
