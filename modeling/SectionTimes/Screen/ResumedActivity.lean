import SectionTimes.Text.Blank
import SectionTimes.Text.Search

/-!
# The resumed activity

A dump of the activities of a device marks the one that the user sees.  Behind the mark stands a
record in braces, one of whose words names the activity: a package and a class with a slash
between them.  The first mark whose record has such a word decides.
-/

namespace SectionTimes.Screen

open Text

/-- The mark of the resumed activity. -/
def mark : List Char := "ResumedActivity".toList

/-- Whether a word is a package and a class with a slash between them, neither of them empty. -/
def isComponent (word : List Char) : Bool := word.tail.dropLast.contains '/'

/-- The first word of a record that is a component.  The record ends at its closing brace, unless
a word holds it; words are those that a blank stands before. -/
def componentIn : List Char → Option (List Char)
  | [] => none
  | c :: s =>
    if isBlank c then
      let word := s.takeWhile fun c => !isBlank c
      if isComponent word then some word else componentIn s
    else if c = '\x7d' then none
    else componentIn s

/-- The component in the record behind a mark: the record begins at the next brace. -/
def componentBehind (s : List Char) : Option (List Char) :=
  componentIn (s.dropWhile (· ≠ '\x7b')).tail

/-- The component behind the first mark that has one. -/
def findComponent : List Char → Option (List Char)
  | [] => none
  | c :: s =>
    match (after? mark (c :: s)).bind componentBehind with
    | some word => some word
    | none => findComponent s

/-- The component of the resumed activity in a dump. -/
def resumedComponent? (dump : String) : Option String :=
  (findComponent dump.toList).map String.ofList

end SectionTimes.Screen
