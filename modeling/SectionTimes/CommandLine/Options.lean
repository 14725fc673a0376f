import SectionTimes.Data.Table
import SectionTimes.Number.Numeral
import SectionTimes.Text.Search
import SectionTimes.Value.Quoted

/-!
# Options of a command line

A command line is a list of words.  A word that begins with two dashes names an option, and may be
shortened as long as only one option begins so; its value stands behind an equals sign or in the
next word.  All words behind two dashes alone are plain.  What a command line gets wrong is found
from left to right, but a shortened option that may mean several is found before all else, and
words that belong nowhere after all else.
-/

namespace SectionTimes.CommandLine

open Text

/-- What an option takes. -/
inductive OptionKind where
  /-- Nothing: it is given or not. -/
  | switch
  | text
  | choice (names : List String)
  | integer
  deriving DecidableEq, Repr

/-- An option, by its name without the dashes. -/
structure Rule where
  name : String
  kind : OptionKind
  deriving DecidableEq, Repr

/-- What a program takes on its command line. -/
structure Rules where
  program : String
  /-- The options, in the order in which they are listed. -/
  options : List Rule
  /-- Whether there may be plain words that are not values of options. -/
  takesNames : Bool
  deriving DecidableEq, Repr

/-- What a command line gives. -/
structure Arguments where
  /-- The values of the options given; of a switch, true. -/
  options : Table String Value
  names : List String

/-- What is wrong with a command line. -/
inductive Complaint where
  /-- A shortened option may mean several. -/
  | ambiguous (word : String) (options : List String)
  | noValue (option : String)
  | hasValue (option value : String)
  | noInteger (option value : String)
  /-- A value is none of those there are. -/
  | noChoice (option value : String) (choices : List String)
  /-- There are words that belong nowhere. -/
  | extraWords (words : List String)
  deriving DecidableEq, Repr

/-- The wording of a complaint. -/
def Complaint.message : Complaint → String
  | .ambiguous word options =>
    "ambiguous option: " ++ word ++ " could match " ++ ", ".intercalate options
  | .noValue option => "argument " ++ option ++ ": expected one argument"
  | .hasValue option value =>
    "argument " ++ option ++ ": ignored explicit argument " ++ quote value
  | .noInteger option value => "argument " ++ option ++ ": invalid int value: " ++ quote value
  | .noChoice option value choices =>
    "argument " ++ option ++ ": invalid choice: " ++ quote value ++ " (choose from " ++
      ", ".intercalate (choices.map quote) ++ ")"
  | .extraWords words => "unrecognized arguments: " ++ " ".intercalate words

/-- What is asked for by a command line. -/
inductive Request where
  | help
  | work (arguments : Arguments)

/-! ## Single words -/

/-- What a word of a command line is. -/
inductive Word where
  /-- A word that names no option. -/
  | plain (text : String)
  /-- Two dashes alone. -/
  | divider
  | option (rule : Rule) (attached : Option String)
  /-- The wish for a description, perhaps with a value that should not be attached. -/
  | help (attached : Option String)
  | unknown (text : String)
  deriving DecidableEq, Repr

/-- An option as it is written. -/
def dashed (name : String) : String := "--" ++ name

/-- The name of the option that asks for a description. -/
def helpName : String := "help"

/-- The names of all options. -/
def Rules.names (r : Rules) : List String := helpName :: r.options.map Rule.name

/-- The word for the option of a name. -/
def Rules.word (r : Rules) (name : String) (attached : Option String) : Word :=
  match r.options.find? fun o => o.name = name with
  | some o => .option o attached
  | none => .help attached

/-- A text in two at its first equals sign; without one, all of it is the first part. -/
def cutValue (s : List Char) : String × Option String :=
  match cutAt ['='] s with
  | some (name, value) => (String.ofList name, some (String.ofList value))
  | none => (String.ofList s, none)

/-- Whether a text is digits, with at most one point among them and none at the end. -/
def isUnsigned (s : List Char) : Bool :=
  match cutAt ['.'] s with
  | none => !s.isEmpty && s.all isDigit
  | some (whole, fraction) => whole.all isDigit && !fraction.isEmpty && fraction.all isDigit

/-- Whether a text is a minus and a number without an exponent, perhaps with a line feed. -/
def looksNegative : List Char → Bool
  | '-' :: s => isUnsigned s || (before? ['\n'] s).any isUnsigned
  | _ => false

/-- What is wrongly attached to a letter that asks for a description, where the same letter may
follow it any number of times; nothing, if all that follows are such letters. -/
def attachedToLetters : List Char → Option String
  | [] => none
  | 'h' :: rest => attachedToLetters rest
  | attached => some (String.ofList attached)

/-- What is wrongly attached to the letter that asks for a description.  An equals sign directly
behind the letter is no part of it, and nothing behind that sign is wrong too. -/
def attachedToLetter : List Char → Option String
  | ['='] => some ""
  | '=' :: value => attachedToLetters value
  | rest => attachedToLetters rest

/-- What a word is that names no option there is. -/
def wordOfOther (word : String) : Word :=
  if looksNegative word.toList || word.toList.contains ' ' then .plain word else .unknown word

/-- What a word is that begins with two dashes; `body` stands behind them. -/
def Rules.longWord (r : Rules) (word : String) (body : List Char) : Except Complaint Word :=
  let (name, attached) := cutValue body
  -- a name given in full is never a shortened one
  if String.ofList body ∈ r.names then .ok (r.word (String.ofList body) none)
  else if name ∈ r.names then .ok (r.word name attached)
  else
    match r.names.filter fun n => name.toList.isPrefixOf n.toList with
    | [] => .ok (wordOfOther word)
    | [name] => .ok (r.word name attached)
    | names => .error (.ambiguous word (names.map dashed))

/-- What a word is. -/
def Rules.classify (r : Rules) (word : String) : Except Complaint Word :=
  match word.toList with
  | '-' :: '-' :: body => r.longWord word body
  | '-' :: 'h' :: rest => .ok (.help (attachedToLetter rest))
  | ['-'] => .ok (.plain word)
  | '-' :: _ => .ok (wordOfOther word)
  | _ => .ok (.plain word)

/-- What words are; behind two dashes alone all are plain. -/
def Rules.classifyAll (r : Rules) : List String → Except Complaint (List Word)
  | [] => .ok []
  | "--" :: words => .ok (.divider :: words.map .plain)
  | word :: words => do
    let word ← r.classify word
    return word :: (← r.classifyAll words)

/-! ## All words -/

/-- Where the plain words that belong to no option stand: together, between two options. -/
inductive NamesPlace where
  /-- None came yet. -/
  | ahead
  /-- They are coming. -/
  | here
  /-- They have come, and any that come now belong nowhere. -/
  | behind
  deriving DecidableEq, Repr

/-- What was taken from the words up to a place. -/
structure Taken where
  options : Table String Value
  names : List String
  /-- Where these stand. -/
  place : NamesPlace
  extra : List String

/-- Nothing taken yet. -/
def Taken.nothing (r : Rules) : Taken :=
  ⟨.empty, [], if r.takesNames then .ahead else .behind, []⟩

/-- Takes notice that an option came. -/
def Taken.passOption (t : Taken) : Taken :=
  { t with place := if t.place = .here then .behind else t.place }

/-- Gives an option a value, in the place of one that it has. -/
def Taken.put (t : Taken) (name : String) (value : Value) : Taken :=
  { t with options := t.options.put name value }

/-- The value of an option, by the text it is given. -/
def Rule.value (o : Rule) (text : String) : Except Complaint Value :=
  match o.kind with
  | .switch => .error (.hasValue (dashed o.name) text)
  | .text => .ok (.text text)
  | .choice names =>
    if text ∈ names then .ok (.text text) else .error (.noChoice (dashed o.name) text names)
  | .integer =>
    match Numeral.readInt text.toList with
    | some i => .ok (.int i)
    | none => .error (.noInteger (dashed o.name) text)

/-- Takes words one after the other; a wish for a description ends it. -/
def take (t : Taken) : List Word → Except Complaint Request
  | [] => if t.extra.isEmpty then .ok (.work ⟨t.options, t.names⟩) else .error (.extraWords t.extra)
  | .plain text :: words =>
    if t.place = .behind then take { t with extra := t.extra ++ [text] } words
    else take { t with names := t.names ++ [text], place := .here } words
  | .divider :: words =>
    if t.place = .behind then take { t with extra := t.extra ++ ["--"] } words
    else take { t with place := .here } words
  | .unknown text :: words =>
    take { t.passOption with extra := t.extra ++ [text] } words
  | .help (some value) :: _ => .error (.hasValue ("-h/" ++ dashed helpName) value)
  | .help none :: _ => .ok .help
  | .option o (some text) :: words => do
    take (t.passOption.put o.name (← o.value text)) words
  | .option o none :: words =>
    if o.kind = .switch then take (t.passOption.put o.name (.bool true)) words
    else
      match words with
      | .plain text :: words => do take (t.passOption.put o.name (← o.value text)) words
      | _ => .error (.noValue (dashed o.name))

/-- What a command line asks for. -/
def Rules.read (r : Rules) (words : List String) : Except Complaint Request := do
  take (.nothing r) (← r.classifyAll words)

/-! ## Results -/

/-- Whether a switch is given. -/
def Arguments.has (a : Arguments) (name : String) : Bool := (a.options.find? name).isSome

/-- The text given for an option. -/
def Arguments.text? (a : Arguments) (name : String) : Option String :=
  match a.options.find? name with
  | some (.text s) => some s
  | _ => none

/-- How an option is written in a description. -/
def Rule.usage (o : Rule) : String :=
  match o.kind with
  | .switch => "[" ++ dashed o.name ++ "]"
  | .text => "[" ++ dashed o.name ++ " TEXT]"
  | .choice names => "[" ++ dashed o.name ++ " " ++ "|".intercalate names ++ "]"
  | .integer => "[" ++ dashed o.name ++ " NUMBER]"

/-- The description of what a program takes. -/
def Rules.usage (r : Rules) : String :=
  " ".intercalate
    (["usage:", r.program, "[-h]"] ++ r.options.map Rule.usage ++
      if r.takesNames then ["[NAME ...]"] else [])

/-- The line that tells what is wrong with a command line. -/
def Rules.complaintLine (r : Rules) (message : String) : String :=
  r.program ++ ": error: " ++ message

end SectionTimes.CommandLine
