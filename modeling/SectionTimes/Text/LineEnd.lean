/-!
# Line ends

Two conventions divide a text into lines.  A report entry ends its lines with a line feed, a
carriage return or both together, and every line that is ended reads as ended by a line feed.
A device listing may also be divided by the other separators that a terminal starts a new line
at, and its lines are taken without their ends.
-/

namespace SectionTimes.Text

/-- Every line end written as one line feed. -/
def unifyEnds : List Char → List Char
  | [] => []
  | '\r' :: '\n' :: s => '\n' :: unifyEnds s
  | '\r' :: s => '\n' :: unifyEnds s
  | c :: s => c :: unifyEnds s

/-- The lines of a text whose lines end in line feeds, each with its end; a last line without an
end is a line when it is not empty. -/
def endedLines : List Char → List (List Char)
  | [] => []
  | c :: s =>
    if c = '\n' then [c] :: endedLines s
    else
      match endedLines s with
      | [] => [[c]]
      | line :: lines => (c :: line) :: lines

/-- The lines of a report entry. -/
def entryLines (s : List Char) : List (List Char) := endedLines (unifyEnds s)

/-- The characters at which a listing starts a new line. -/
def isBreak (c : Char) : Bool :=
  c.toNat ∈ [0x0A, 0x0B, 0x0C, 0x0D, 0x1C, 0x1D, 0x1E, 0x85, 0x2028, 0x2029]

/-- A listing divided at its breaks; a carriage return and the line feed behind it are one. -/
def listingParts : List Char → List (List Char)
  | [] => [[]]
  | '\r' :: '\n' :: s => [] :: listingParts s
  | c :: s =>
    if isBreak c then [] :: listingParts s
    else
      match listingParts s with
      | [] => [[c]]
      | line :: lines => (c :: line) :: lines

/-- The lines of a listing: its parts, less the empty part behind a break at the end. -/
def listingLines (s : List Char) : List (List Char) :=
  match (listingParts s).getLast? with
  | some [] => (listingParts s).dropLast
  | _ => listingParts s

end SectionTimes.Text
