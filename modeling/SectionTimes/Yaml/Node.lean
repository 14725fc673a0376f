import SectionTimes.Yaml.Token

/-!
# The tree of a configuration file

Tokens form a tree of scalars, lists and mappings.  Where an item, a key or a value is left out,
an empty plain scalar stands.  A file holds one document at most.  Of a place at which scanning
stopped and a token that should not be where it is, the first counts.
-/

namespace SectionTimes.Yaml

/-- A part of a configuration file. -/
inductive Node where
  /-- A scalar, and whether it stands without quotes. -/
  | scalar (plain : Bool) (text : List Char)
  /-- A scalar in quotes with halves of characters in it. -/
  | halved (codes : List Nat)
  | list (items : List Node)
  | map (entries : List (Node × Node))
  deriving Inhabited, Repr

/-- What stands where a part is left out. -/
def Node.blank : Node := .scalar true []

/-- A part read from tokens, and the tokens behind it. -/
abbrev Parsed := Except Fault (Node × List Token)

/-- The fault of tokens that cannot go on as they do. -/
def refuse {α : Type} : List Token → Except Fault α
  | .broken fault :: _ => .error fault
  | _ => .error .malformed

/-- How many lists and mappings may stand within one another. -/
def maxDepth : Nat := 489

/-- Whether the first of some tokens is one of those given. -/
def startsWith (ts : List Token) (choices : List Token) : Bool := ts.head?.any choices.contains

/-- Reads a part with `read` unless a token comes that shows that it is left out. -/
def orBlank (enders : List Token) (read : List Token → Parsed) (ts : List Token) : Parsed :=
  if startsWith ts enders then .ok (Node.blank, ts) else read ts

/-- The tokens of the next item or entry in flow form: a comma stands before all but the first. -/
def behindComma (first : Bool) (ts : List Token) : Except Fault (List Token) :=
  match first, ts with
  | true, ts => .ok ts
  | false, .comma :: ts => .ok ts
  | false, ts => refuse ts

/-- Whether a token opens a list or mapping, where lists and mappings in block form may stand, and
lists without indentation of their own. -/
def opens (block bare : Bool) : Token → Bool
  | .flowListStart => true
  | .flowMapStart => true
  | .blockListStart => block
  | .blockMapStart => block
  | .item => bare
  | _ => false

mutual

/-- Reads a part.  In block form lists and mappings may begin by their indentation, and behind a
key or a colon a list may stand without one of its own.  `room` is how many lists and mappings may
stand within one another here. -/
def readNode (block bare : Bool) : (fuel room : Nat) → List Token → Parsed
  | 0, _, _ => .error .malformed
  | fuel + 1, room, ts =>
    match ts with
    | [] => .error .malformed
    | .scalar plain text :: ts => .ok (.scalar plain text, ts)
    | .halved codes :: ts => .ok (.halved codes, ts)
    | t :: ts =>
      if !opens block bare t then refuse (t :: ts)
      else if room = 0 then .error .tooDeep
      else
        match t with
        | .flowListStart => readFlowList fuel (room - 1) true [] ts
        | .flowMapStart => readFlowMap fuel (room - 1) true [] ts
        | .blockListStart => readBlockList fuel (room - 1) [] ts
        | .blockMapStart => readBlockMap fuel (room - 1) [] ts
        | t => readBareList fuel (room - 1) [] (t :: ts)
termination_by structural fuel => fuel

/-- Reads the items of a list in block form up to its end. -/
def readBlockList : (fuel room : Nat) → List Node → List Token → Parsed
  | 0, _, _, _ => .error .malformed
  | fuel + 1, room, done, ts =>
    match ts with
    | .item :: ts => do
      let (node, ts) ← orBlank [.item, .blockEnd] (readNode true false fuel room) ts
      readBlockList fuel room (node :: done) ts
    | .blockEnd :: ts => .ok (.list done.reverse, ts)
    | ts => refuse ts
termination_by structural fuel => fuel

/-- Reads the items of a list that has no indentation of its own. -/
def readBareList : (fuel room : Nat) → List Node → List Token → Parsed
  | 0, _, _, _ => .error .malformed
  | fuel + 1, room, done, ts =>
    match ts with
    | .item :: ts => do
      let (node, ts) ← orBlank [.item, .key, .value, .blockEnd] (readNode true false fuel room) ts
      readBareList fuel room (node :: done) ts
    | .broken fault :: _ => .error fault
    | ts => .ok (.list done.reverse, ts)
termination_by structural fuel => fuel

/-- Reads the entries of a mapping in block form up to its end. -/
def readBlockMap : (fuel room : Nat) → List (Node × Node) → List Token → Parsed
  | 0, _, _, _ => .error .malformed
  | fuel + 1, room, done, ts =>
    match ts with
    | .key :: ts => do
      let enders := [.key, .value, .blockEnd]
      let (key, ts) ← orBlank enders (readNode true true fuel room) ts
      match ts with
      | .value :: ts =>
        let (value, ts) ← orBlank enders (readNode true true fuel room) ts
        readBlockMap fuel room ((key, value) :: done) ts
      | ts => readBlockMap fuel room ((key, Node.blank) :: done) ts
    | .blockEnd :: ts => .ok (.map done.reverse, ts)
    | ts => refuse ts
termination_by structural fuel => fuel

/-- Reads the items of a list in flow form up to its bracket.  A key makes an item a mapping of
one entry. -/
def readFlowList : (fuel room : Nat) → (first : Bool) → List Node → List Token → Parsed
  | 0, _, _, _, _ => .error .malformed
  | fuel + 1, room, first, done, ts =>
    match ts with
    | .flowListEnd :: ts => .ok (.list done.reverse, ts)
    | ts => do
      match ← behindComma first ts with
      | .flowListEnd :: ts => return (.list done.reverse, ts)
      | .key :: ts =>
        if room = 0 then throw .tooDeep
        let inner := room - 1
        let (key, ts) ← orBlank [.value, .comma, .flowListEnd] (readNode false false fuel inner) ts
        match ts with
        | .value :: ts =>
          let (value, ts) ← orBlank [.comma, .flowListEnd] (readNode false false fuel inner) ts
          readFlowList fuel room false (.map [(key, value)] :: done) ts
        | ts => readFlowList fuel room false (.map [(key, Node.blank)] :: done) ts
      | ts =>
        let (node, ts) ← readNode false false fuel room ts
        readFlowList fuel room false (node :: done) ts
termination_by structural fuel => fuel

/-- Reads the entries of a mapping in flow form up to its brace.  An entry without a key mark has
no value. -/
def readFlowMap : (fuel room : Nat) → (first : Bool) → List (Node × Node) → List Token → Parsed
  | 0, _, _, _, _ => .error .malformed
  | fuel + 1, room, first, done, ts =>
    match ts with
    | .flowMapEnd :: ts => .ok (.map done.reverse, ts)
    | ts => do
      match ← behindComma first ts with
      | .flowMapEnd :: ts => return (.map done.reverse, ts)
      | .key :: ts =>
        let (key, ts) ← orBlank [.value, .comma, .flowMapEnd] (readNode false false fuel room) ts
        match ts with
        | .value :: ts =>
          let (value, ts) ← orBlank [.comma, .flowMapEnd] (readNode false false fuel room) ts
          readFlowMap fuel room false ((key, value) :: done) ts
        | ts => readFlowMap fuel room false ((key, Node.blank) :: done) ts
      | ts =>
        let (node, ts) ← readNode false false fuel room ts
        readFlowMap fuel room false ((node, Node.blank) :: done) ts
termination_by structural fuel => fuel

end

/-- Reads the one document that tokens hold, if they hold one. -/
def Node.ofTokens (ts : List Token) : Except Fault (Option Node) := do
  if ts.isEmpty then return none
  let read := readNode true false (2 * ts.length + 2) maxDepth
  let (node, ts) ← match ts with
    | .documentStart :: ts =>
      if ts.isEmpty then .ok (Node.blank, ts) else orBlank [.documentStart, .documentEnd] read ts
    | ts => read ts
  match ts.dropWhile (· == .documentEnd) with
  | [] => return some node
  | ts => refuse ts

end SectionTimes.Yaml
