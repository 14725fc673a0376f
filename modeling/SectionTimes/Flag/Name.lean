import SectionTimes.Device.Link
import SectionTimes.Text.Search
import SectionTimes.Text.Word

/-!
# Names of feature flags

A flag name is a package and a flag: at least two parts with dots between them, each beginning
with a letter of ASCII or an underscore and going on with characters of words.  One line feed at
the end is let pass.
-/

namespace SectionTimes.Flag

open Text

/-- Whether a part of a flag name may begin with a character. -/
def isInitial (c : Char) : Bool := c.isAlpha || c = '_'

/-- Whether a text can be a part of a flag name. -/
def isPart : List Char → Bool
  | [] => false
  | c :: s => isInitial c && s.all isWord

/-- Whether a text consists of parts with dots between them. -/
def isDotted (s : List Char) : Bool := 2 ≤ (splitOn '.' s).length && (splitOn '.' s).all isPart

/-- Whether a text can be declared as a flag name. -/
def isName (s : List Char) : Bool :=
  isDotted s || (s.getLast? == some '\n' && isDotted s.dropLast)

/-- Why flags cannot be declared. -/
inductive Fault where
  | noFlags
  | badName (name : Value)
  deriving Repr

/-- The wording of a fault. -/
def Fault.message : Fault → String
  | .noFlags => "At least one flag name is required"
  | .badName name => Device.flagNameMessage name.quoted

/-- The flag name that a value is. -/
def checkName : Value → Except Fault String
  | .text s => if isName s.toList then .ok s else .error (.badName (.text s))
  | v => .error (.badName v)

/-- The flag names that values are; there must be one at least. -/
def checkNames (values : List Value) : Except Fault (List String) :=
  if values.isEmpty then .error .noFlags else values.mapM checkName

end SectionTimes.Flag
