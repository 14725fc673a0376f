import SectionTimes.Number.Numeral
import SectionTimes.Value.Calendar

/-!
# Faults of a configuration file

Why a configuration file gives no value.  Most faults are found while the file is read; those of
numbers, dates and moments only when all of it was.
-/

namespace SectionTimes.Yaml

/-- Why a file gives no value. -/
inductive Fault where
  | malformed
  /-- It is no text in UTF-8. -/
  | undecodable
  | tooDeep
  /-- It escapes a character that there is not. -/
  | noCharacter (code : Nat)
  /-- It has an integer without digits. -/
  | noDigits (base : Nat)
  | tooManyDigits (count : Nat)
  /-- It has a number of so many parts that they cannot be put together. -/
  | tooLarge
  | calendar (fault : CalendarFault)
  deriving DecidableEq, Repr

/-- The wording of a fault, where it has one. -/
def Fault.message : Fault → String
  | .noCharacter _ => "chr() arg not in range(0x110000)"
  | .noDigits n => s!"invalid literal for int() with base {n}: ''"
  | .tooManyDigits n =>
    s!"Exceeds the limit ({Numeral.maxDigits} digits) for integer string conversion: " ++
      s!"value has {n} digits; use sys.set_int_max_str_digits() to increase the limit"
  | .calendar fault => fault.message
  | _ => ""

end SectionTimes.Yaml
