import SectionTimes.Number.Binary64

/-!
# Decimal text of binary numbers

Two texts of a number.  `fixed` has a given number of places and is rounded from the exact value.
`shortest` has the fewest significant digits that read back as the number, and of the texts of
that length the nearest one; it is positional for exponents from -4 to 15 and scientific
otherwise.
-/

namespace SectionTimes

/-- The decimal digits of a natural. -/
def natDigits (n : Nat) : List Char := Nat.toDigits 10 n

/-- A text made at least `width` wide by characters put before it. -/
def padStart (fill : Char) (width : Nat) (s : List Char) : List Char :=
  List.replicate (width - s.length) fill ++ s

/-- A text made at least `width` wide by characters put behind it. -/
def padEnd (fill : Char) (width : Nat) (s : List Char) : List Char :=
  s ++ List.replicate (width - s.length) fill

namespace Binary64

/-- A minus sign before a text. -/
def withSign (negative : Bool) (s : List Char) : List Char := if negative then '-' :: s else s

/-- The text with `places` digits after the point. -/
def fixed (places : Nat) : Binary64 → List Char
  | .nan => ['n', 'a', 'n']
  | .infinite s => withSign s ['i', 'n', 'f']
  | .finite s a =>
    let digits := padStart '0' (places + 1) (natDigits (roundQuotient (a * Nat.pow 10 places) one))
    let whole := digits.length - places
    withSign s (digits.take whole ++ '.' :: digits.drop whole)

/-- A positive decimal number `digits · 10 ^ exponent`. -/
structure Scaled where
  /-- The significant digits, read as a natural. -/
  digits : Nat
  /-- The power of ten that they count. -/
  exponent : Int
  deriving DecidableEq, Repr

/-- The binary number that a decimal one rounds to. -/
def Scaled.toBinary (d : Scaled) : Binary64 := ofDecimal false d.digits d.exponent

/-- The exact decimal value of a number of quanta of 2⁻¹⁰⁷⁴: once the common powers of two are
divided out, 2⁻ⁿ is 5ⁿ · 10⁻ⁿ. -/
def exact (quanta : Nat) : Scaled :=
  let common := Nat.gcd quanta one
  let places := 1074 - common.log2
  ⟨quanta / common * Nat.pow 5 places, -(places : Int)⟩

/-- Of the two neighbours of an exact value on the grid of `10 ^ cut` steps, the nearer one that
reads back as the number, an even digit deciding between equally near ones. -/
def neighbour? (quanta : Nat) (value : Scaled) (cut : Nat) : Option Scaled :=
  let step := Nat.pow 10 cut
  let low : Scaled := ⟨value.digits / step, value.exponent + cut⟩
  let high : Scaled := { low with digits := low.digits + 1 }
  let target : Binary64 := .finite false quanta
  match low.toBinary == target, high.toBinary == target with
  | true, true => some { low with digits := roundQuotient value.digits step }
  | true, false => some low
  | false, true => some high
  | false, false => none

/-- The first grid, from the coarsest of `tries`, on which the number is found. -/
def firstGrid (quanta : Nat) (value : Scaled) (length : Nat) : Nat → Scaled
  | 0 => value
  | tries + 1 =>
    match neighbour? quanta value (length - (18 - (tries + 1))) with
    | some d => d
    | none => firstGrid quanta value length tries

/-- The decimal number of fewest digits that reads back as a number of quanta.  Seventeen digits
always do. -/
def shortestScaled (quanta : Nat) : Scaled :=
  let value := exact quanta
  firstGrid quanta value (digitCount value.digits) 17

/-- The digits of a natural without the zeros at their end. -/
def significant (n : Nat) : List Char := (((natDigits n).reverse).dropWhile (· == '0')).reverse

/-- The exponent of a scientific text: a sign and at least two digits. -/
def exponentText (e : Int) : List Char :=
  'e' :: (if e < 0 then '-' else '+') :: padStart '0' 2 (natDigits e.natAbs)

/-- The text of a positive decimal number. -/
def Scaled.text (d : Scaled) : List Char :=
  let digits := significant d.digits
  let e := (digitCount d.digits : Int) - 1 + d.exponent
  if -4 ≤ e ∧ e < 16 then
    if e < 0 then '0' :: '.' :: List.replicate (-e - 1).toNat '0' ++ digits
    else
      let whole := e.toNat + 1
      let fraction := digits.drop whole
      padEnd '0' whole (digits.take whole) ++ '.' :: (if fraction.isEmpty then ['0'] else fraction)
  else
    match digits with
    | [] => []
    | [c] => c :: exponentText e
    | c :: rest => c :: '.' :: rest ++ exponentText e

/-- The shortest text that reads back as the number. -/
def shortest : Binary64 → List Char
  | .nan => ['n', 'a', 'n']
  | .infinite s => withSign s ['i', 'n', 'f']
  | .finite s a => withSign s (if a = 0 then ['0', '.', '0'] else (shortestScaled a).text)

/-- The shortest text, as a string. -/
def toShortest (x : Binary64) : String := String.ofList x.shortest

/-- The text with three digits after the point, as a string. -/
def toMillis (x : Binary64) : String := String.ofList (x.fixed 3)

end Binary64

end SectionTimes
