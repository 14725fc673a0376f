/-!
# Unpacking bit by bit

Packed data is taken bit by bit, from the lowest bit of each byte up, and bytes are made of it.
Reading ends at the end that the data gives, where the data ends too early, or at a fault; in each
case the bytes made until then are kept.  With each of them it is known how much of the data it
takes, so that reading can be followed where the data comes in portions.
-/

namespace SectionTimes.Unpacking

/-- Why reading ends, where `ε` says what can be wrong with the data. -/
inductive Stop (ε : Type) where
  | finished
  | starved
  | faulty (fault : ε)
  deriving DecidableEq, Repr

/-- A byte made, and what it takes of the data. -/
structure Made where
  byte : UInt8
  /-- How many bytes of the data have to be there for it. -/
  needs : Nat
  /-- How many bytes of the data are taken before there has to be room for it. -/
  taken : Nat
  deriving DecidableEq, Repr, Inhabited

/-- The place that reading has reached. -/
structure State where
  /-- The bits left of the byte begun. -/
  bits : List Bool
  /-- The bytes not yet begun. -/
  bytes : List UInt8
  /-- How many bytes are begun. -/
  used : Nat
  out : Array Made

/-- A step of reading, which leaves its place also where it stops. -/
abbrev Decoder (ε : Type) := EStateM (Stop ε) State

/-- What comes of packed data. -/
structure Outcome (ε : Type) where
  made : Array Made
  stop : Stop ε
  /-- How many bytes of the data were taken until it ended. -/
  used : Nat
  deriving DecidableEq, Repr

variable {ε : Type}

/-- What comes of data that is taken by some steps. -/
def Decoder.outcome (steps : Decoder ε Unit) (packed : List UInt8) : Outcome ε :=
  match steps ⟨[], packed, 0, #[]⟩ with
  | .ok _ s => ⟨s.out, .finished, s.used⟩
  | .error stop s => ⟨s.out, stop, s.used⟩

/-- The outcome of data that is not packed: each byte makes itself. -/
def plain (data : List UInt8) : Outcome ε :=
  ⟨(data.zipIdx.map fun (b, i) => ⟨b, i + 1, i⟩).toArray, .starved, data.length⟩

/-- Says differently what is wrong with the data. -/
def Outcome.mapFault {ε' : Type} (f : ε → ε') (o : Outcome ε) : Outcome ε' where
  made := o.made
  stop :=
    match o.stop with
    | .finished => .finished
    | .starved => .starved
    | .faulty fault => .faulty (f fault)
  used := o.used

/-! ## Steps -/

/-- The bits of a byte, the lowest first. -/
def bitsOf (b : UInt8) : List Bool := (List.range 8).map fun i => b.toNat.testBit i

/-- Takes one bit. -/
def bit : Decoder ε Bool := fun s =>
  match s.bits with
  | b :: bits => .ok b { s with bits }
  | [] =>
    match s.bytes with
    | [] => .error .starved s
    | b :: bytes =>
      .ok (b.toNat.testBit 0) { s with bits := (bitsOf b).tail, bytes, used := s.used + 1 }

/-- Takes a number of a given width, its lowest bit first. -/
def number : Nat → Decoder ε Nat
  | 0 => pure 0
  | width + 1 => do
    let low ← bit
    return low.toNat + 2 * (← number width)

/-- Takes a number of a given width, its highest bit first. -/
def numberDown (width : Nat) : Decoder ε Nat := go width 0
where
  /-- Goes on after `high`. -/
  go : Nat → Nat → Decoder ε Nat
  | 0, high => pure high
  | width + 1, high => do go width (2 * high + (← bit).toNat)

/-- Takes `n` bits as they are. -/
def flags : Nat → Decoder ε (List Bool)
  | 0 => pure []
  | n + 1 => do return (← bit) :: (← flags n)

/-- Adds a byte to what is made, for which `taken` bytes of the data were taken. -/
def emitAfter (taken : Nat) (b : UInt8) : Decoder ε Unit :=
  modify fun s => { s with out := s.out.push ⟨b, s.used, taken⟩ }

/-- Adds a byte that has a code to what is made. -/
def emit (b : UInt8) : Decoder ε Unit := do emitAfter (← get).used b

/-- Repeats bytes from `distance` back, one after the other, so that they may repeat themselves. -/
def repeatBack (distance : Nat) : Nat → Decoder ε Unit
  | 0 => pure ()
  | n + 1 => do
    let out := (← get).out
    emit ((out[out.size - distance]?.map Made.byte).getD 0)
    repeatBack distance n

/-- Stops at a fault. -/
def fail {α : Type} (fault : ε) : Decoder ε α := throw (.faulty fault)

/-! ## Prefix codes -/

/-- A canonical prefix code. -/
structure Code where
  /-- How many symbols have a code of one bit, of two bits, and so on. -/
  counts : List Nat
  /-- The symbols, in the order of their codes. -/
  symbols : Array Nat
  deriving Repr

namespace Code

/-- The code in which each symbol has a code of a given length, none for length zero.  There is
always a first length, so that an empty code is found out by its first bit. -/
def ofLengths (lengths : List Nat) : Code :=
  let longest := lengths.foldl max 1
  let lengthsUp := (List.range longest).map (· + 1)
  { counts := lengthsUp.map fun n => lengths.count n
    symbols := (lengthsUp.flatMap fun n =>
      (lengths.zipIdx.filter fun (length, _) => length = n).map Prod.snd).toArray }

/-- Whether no symbol has a code. -/
def isEmpty (c : Code) : Bool := c.symbols.isEmpty

/-- Whether every code is the beginning of some symbol's, and no code has two meanings. -/
def isComplete (c : Code) : Bool :=
  -- what is left are the codes of the length that no symbol has
  (c.counts.foldl (fun (left : Option Nat) count =>
    left.bind fun n => if 2 * n < count then none else some (2 * n - count)) (some 1)) == some 0

/-- Whether a code may be used for symbols or distances: it is complete or empty, or has one
symbol of one bit. -/
def isUsable (c : Code) : Bool := c.isComplete || c.isEmpty || c.counts == [1]

/-- Takes the code of a symbol, going from length to length.  `first` is the least code of the
length and `index` the place of its symbol. -/
def walk (symbols : Array Nat) : List Nat → Nat → Nat → Nat → Decoder ε (Option Nat)
  | [], _, _, _ => pure none
  | count :: counts, code, first, index => do
    let code := 2 * code + (← bit).toNat
    if code < first + count then return symbols[index + (code - first)]?
    else walk symbols counts code (2 * (first + count)) (index + count)

/-- Takes the code of a symbol; `none` where the bits are the code of no symbol. -/
def take (c : Code) : Decoder ε (Option Nat) := walk c.symbols c.counts 0 0 0

end Code

end SectionTimes.Unpacking
