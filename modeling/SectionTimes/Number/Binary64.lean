/-!
# Binary floating-point numbers of 64 bits

A finite number is a sign and a whole number of quanta of 2⁻¹⁰⁷⁴, the smallest positive one, so
that every operation is exact arithmetic on natural numbers followed by one rounding.  Rounding
keeps 53 significant bits, takes the nearest such number and, of two equally near, the even one;
what reaches 2¹⁰²⁴ becomes infinite.
-/

namespace SectionTimes

/-- A binary floating-point number of 64 bits. -/
inductive Binary64 where
  /-- The result of an undefined operation; it equals nothing. -/
  | nan
  /-- An infinity, by its sign. -/
  | infinite (negative : Bool)
  /-- A finite number, by its sign and its magnitude in quanta of 2⁻¹⁰⁷⁴. -/
  | finite (negative : Bool) (quanta : Nat)
  deriving DecidableEq, Inhabited, Repr

/-- The quotient of two naturals rounded to the nearest natural, a half to the even one. -/
def roundQuotient (num den : Nat) : Nat :=
  let low := num / den
  let twice := 2 * (num % den)
  if twice < den then low
  else if den < twice then low + 1
  else if low % 2 = 0 then low else low + 1

namespace Binary64

/-- The number of quanta in one. -/
def one : Nat := Nat.pow 2 1074

/-- The magnitude, in quanta, at which numbers become infinite. -/
def overflow : Nat := Nat.pow 2 2098

/-- The number of bits of a natural beyond the 53 that a number keeps. -/
def excessBits (n : Nat) : Nat := n.log2 + 1 - 53

/-- The nearest magnitude of 53 significant bits to `num / den` quanta. -/
def roundQuanta (num den : Nat) : Nat :=
  let unit := Nat.pow 2 (excessBits (num / den))
  roundQuotient num (den * unit) * unit

/-- The number nearest to `num / den` quanta. -/
def ofQuanta (negative : Bool) (num den : Nat) : Binary64 :=
  let q := roundQuanta num den
  if q < overflow then .finite negative q else .infinite negative

/-- Zero. -/
def zero : Binary64 := .finite false 0

/-- The number of decimal digits of a natural. -/
def digitCount (n : Nat) : Nat := (Nat.toDigits 10 n).length

/-- The number nearest to `digits · 10 ^ exponent`.  Exponents that are out of every finite
number's reach are settled without computing the power. -/
def ofDecimal (negative : Bool) (digits : Nat) (exponent : Int) : Binary64 :=
  let reach := (digitCount digits : Int) + exponent
  if digits = 0 || reach < -400 then .finite negative 0
  else if 400 < reach then .infinite negative
  else if 0 ≤ exponent then ofQuanta negative (digits * Nat.pow 10 exponent.toNat * one) 1
  else ofQuanta negative (digits * one) (Nat.pow 10 (-exponent).toNat)

/-- A number, if it is finite. -/
def finite? : Binary64 → Option Binary64
  | .finite negative q => some (.finite negative q)
  | _ => none

/-- The number nearest to an integer; `none` when that is infinite. -/
def ofInt? (i : Int) : Option Binary64 := (ofQuanta (i < 0) (i.natAbs * one) 1).finite?

/-- A sign put before a natural. -/
def signed (negative : Bool) (n : Nat) : Int := if negative then -(n : Int) else n

/-- The sum. -/
def add : Binary64 → Binary64 → Binary64
  | .nan, _ => .nan
  | _, .nan => .nan
  | .infinite s, .infinite t => if s = t then .infinite s else .nan
  | .infinite s, _ => .infinite s
  | _, .infinite t => .infinite t
  | .finite s a, .finite t b =>
    let sum := signed s a + signed t b
    -- a sum of zero is negative only if both summands are
    if sum = 0 then .finite (s && t) 0 else ofQuanta (sum < 0) sum.natAbs 1

/-- The opposite. -/
def neg : Binary64 → Binary64
  | .nan => .nan
  | .infinite s => .infinite !s
  | .finite s a => .finite (!s) a

/-- The difference. -/
def sub (x y : Binary64) : Binary64 := add x (neg y)

/-- The product. -/
def mul : Binary64 → Binary64 → Binary64
  | .nan, _ => .nan
  | _, .nan => .nan
  | .infinite s, .infinite t => .infinite (s ^^ t)
  | .infinite s, .finite t b => if b = 0 then .nan else .infinite (s ^^ t)
  | .finite s a, .infinite t => if a = 0 then .nan else .infinite (s ^^ t)
  | .finite s a, .finite t b => ofQuanta (s ^^ t) (a * b) one

instance : Add Binary64 := ⟨add⟩
instance : Sub Binary64 := ⟨sub⟩
instance : Mul Binary64 := ⟨mul⟩
instance : Neg Binary64 := ⟨neg⟩

/-- Whether the first number is below the second; never, where one is no number. -/
def less : Binary64 → Binary64 → Bool
  | .nan, _ => false
  | _, .nan => false
  | .infinite s, .infinite t => s && !t
  | .infinite s, .finite _ _ => s
  | .finite _ _, .infinite t => !t
  | .finite s a, .finite t b => signed s a < signed t b

/-- Whether two numbers have the same value: the two zeros do, and what is no number does not. -/
def same : Binary64 → Binary64 → Bool
  | .infinite s, .infinite t => s == t
  | .finite s a, .finite t b => signed s a == signed t b
  | _, _ => false

/-- The number rounded to a number of decimal places, a half to the even digit. -/
def roundPlaces (places : Nat) : Binary64 → Binary64
  | .finite s a => ofDecimal s (roundQuotient (a * Nat.pow 10 places) one) (-(places : Int))
  | x => x

/-- The integer part of a finite number. -/
def truncate? : Binary64 → Option Int
  | .finite s a => some (signed s (a / one))
  | _ => none

end Binary64

end SectionTimes
