import SectionTimes.Text.Halves
import SectionTimes.Yaml.Source

/-!
# Tokens of a configuration file

A configuration file is written in block form, where indentation shows what belongs together, or
in flow form, between brackets.  This module divides it into tokens.  Where a block begins or
ends by its indentation, a token says so; and where a key is known only by the colon behind it, a
token is put before it afterwards.  Scanning stops at the first fault, and a token says so.

Anchors, aliases, tags, directives and block scalars are not taken: a file that has one of them is
malformed to this reader, though not to every reader of YAML.
-/

namespace SectionTimes.Yaml

/-- A token. -/
inductive Token where
  /-- Three hyphens: a document begins. -/
  | documentStart
  /-- Three dots: a document ends. -/
  | documentEnd
  | blockListStart
  | blockMapStart
  | blockEnd
  /-- An opening bracket. -/
  | flowListStart
  /-- A closing bracket. -/
  | flowListEnd
  /-- An opening brace. -/
  | flowMapStart
  /-- A closing brace. -/
  | flowMapEnd
  | comma
  /-- The hyphen before an item. -/
  | item
  | key
  | value
  /-- A scalar, and whether it stands without quotes. -/
  | scalar (plain : Bool) (text : List Char)
  /-- A scalar in quotes with halves of characters in it. -/
  | halved (codes : List Nat)
  /-- A place at which scanning stops, and why. -/
  | broken (fault : Fault)
  deriving DecidableEq, Repr

/-! ## Characters -/

/-- Whether a character ends a line. -/
def isBreak (c : Char) : Bool :=
  c = '\n' || c = Char.ofNat 0x85 || c = Char.ofNat 0x2028 || c = Char.ofNat 0x2029

/-- Whether a character is a space, a tab or ends a line. -/
def isGap (c : Char) : Bool := c = ' ' || c = '\t' || isBreak c

/-- Whether a place is the end of the text or holds a gap. -/
def isGapOrEnd : Option Char → Bool
  | none => true
  | some c => isGap c

/-- The mark of the byte order, which takes no room. -/
def orderMark : Char := Char.ofNat 0xFEFF

/-! ## The state of scanning -/

/-- A token that turns out to be a key if a colon follows on its line. -/
structure SimpleKey where
  /-- The flow level at which it stands. -/
  level : Nat
  /-- Its number among the tokens. -/
  number : Nat
  isRequired : Bool
  /-- How many characters stand before it. -/
  index : Nat
  /-- How many lines stand before it. -/
  line : Nat
  /-- How many characters stand before it on its line. -/
  column : Nat
  deriving Repr

/-- The place that scanning has reached. -/
structure Scanner where
  /-- The number of characters of the whole text. -/
  size : Nat
  rest : List Char
  /-- The fault behind it, if there is one. -/
  ending : Option Fault
  /-- How many characters are scanned. -/
  index : Nat
  /-- How many lines are scanned. -/
  line : Nat
  /-- How many characters of the line are scanned. -/
  column : Nat
  /-- The tokens found, the last first. -/
  found : List Token
  count : Nat
  /-- The column of the innermost block; minus one outside all blocks. -/
  indent : Int
  /-- The columns of the blocks around it. -/
  indents : List Int
  /-- How many brackets are open. -/
  level : Nat
  /-- Whether a key may begin here. -/
  keyAllowed : Bool
  /-- The tokens that may be keys, at most one on each level. -/
  keys : List SimpleKey

/-- A step of scanning. -/
abbrev Scan := StateT Scanner (Except Fault)

/-- Stops at a malformed place. -/
def malformed {α : Type} : Scan α := throw .malformed

/-- Looks at the place `n` places ahead; if it is beyond what can be read, the fault there
counts. -/
def touch (n : Nat) : Scan Unit := do
  let s ← get
  match s.ending with
  | none => return ()
  | some fault => if (s.rest.drop n).isEmpty then throw fault

/-- The character `n` places ahead. -/
def peek (n : Nat) : Scan (Option Char) := do
  touch n
  return (← get).rest[n]?

/-- Passes one character. -/
def Scanner.next (s : Scanner) : Scanner :=
  match s.rest with
  | [] => s
  | c :: rest =>
    if isBreak c then { s with rest, index := s.index + 1, line := s.line + 1, column := 0 }
    else
      let column := if c = orderMark then s.column else s.column + 1
      { s with rest, index := s.index + 1, column }

/-- The scanner after `n` characters. -/
def Scanner.nextBy (s : Scanner) : Nat → Scanner
  | 0 => s
  | n + 1 => s.next.nextBy n

/-- Passes `n` characters, and looks at the next one. -/
def skip (n : Nat) : Scan Unit := do
  modify fun s => s.nextBy n
  touch 0

/-- Passes the characters of a class, and gives them. -/
def skipWhile (p : Char → Bool) : Scan (List Char) := do
  let passed := (← get).rest.takeWhile p
  skip passed.length
  return passed

/-- Passes the end of a line, if the place is one, and gives what it counts as. -/
def lineBreak : Scan (Option Char) := do
  match ← peek 0 with
  | none => return none
  | some c =>
    if !isBreak c then return none
    skip 1
    return some (if c = Char.ofNat 0x85 then '\n' else c)

/-- The scanner with one more token. -/
def Scanner.add (s : Scanner) (t : Token) : Scanner :=
  { s with found := t :: s.found, count := s.count + 1 }

/-- The scanner with a token put before the token of a number. -/
def Scanner.insert (s : Scanner) (number : Nat) (t : Token) : Scanner :=
  let behind := s.count - number
  { s with found := s.found.take behind ++ t :: s.found.drop behind, count := s.count + 1 }

/-- Adds a token. -/
def emit (t : Token) : Scan Unit := modify fun s => s.add t

/-- Says whether a key may begin here. -/
def allowKey (allowed : Bool) : Scan Unit := modify fun s => { s with keyAllowed := allowed }

/-! ## Blocks and keys -/

/-- Ends the blocks that are deeper than a column. -/
def endBlocks (column : Int) : Nat → Scan Unit
  | 0 => pure ()
  | fuel + 1 => do
    let s ← get
    if s.level = 0 ∧ column < s.indent then
      set { s.add .blockEnd with indent := s.indents.headD (-1), indents := s.indents.tail }
      endBlocks column fuel

/-- Ends the blocks that are deeper than a column. -/
def unwind (column : Int) : Scan Unit := do endBlocks column ((← get).indents.length + 1)

/-- Begins a block at a column, if that is deeper than the innermost one; says whether. -/
def beginBlock (column : Nat) : Scan Bool := do
  let s ← get
  if s.indent < column then
    set { s with indents := s.indent :: s.indents, indent := column }
    return true
  else return false

/-- For how many characters a token may still become a key. -/
def keyReach : Nat := 1024

/-- Whether a token can be a key no more. -/
def Scanner.isStale (s : Scanner) (k : SimpleKey) : Bool :=
  k.line != s.line || keyReach < s.index - k.index

/-- Gives up the tokens that can be keys no more. -/
def dropStaleKeys : Scan Unit := do
  let s ← get
  if s.keys.any fun k => s.isStale k && k.isRequired then malformed
  set { s with keys := s.keys.filter fun k => !s.isStale k }

/-- Gives up the token of this level that may be a key. -/
def dropKey : Scan Unit := do
  let s ← get
  if s.keys.any fun k => k.level = s.level && k.isRequired then malformed
  set { s with keys := s.keys.filter fun k => k.level ≠ s.level }

/-- Remembers that the next token may be a key. -/
def saveKey : Scan Unit := do
  if (← get).keyAllowed then
    dropKey
    modify fun s =>
      let key : SimpleKey :=
        { level := s.level, number := s.count
          isRequired := s.level = 0 && s.indent = s.column
          index := s.index, line := s.line, column := s.column }
      { s with keys := key :: s.keys }

/-! ## Gaps -/

/-- Passes spaces, comments and line ends up to the next token. -/
def toNextToken : Nat → Scan Unit
  | 0 => pure ()
  | fuel + 1 => do
    let _ ← skipWhile (· = ' ')
    if (← peek 0) = some '#' then
      let _ ← skipWhile fun c => !isBreak c
    if (← lineBreak).isSome then
      -- outside brackets a key may begin on each new line
      if (← get).level = 0 then allowKey true
      toNextToken fuel

/-- The document marker that stands here on its own, if one does. -/
def marker? : Scan (Option Token) := do
  -- three places are looked at, whatever stands at the first
  touch 2
  let marker := match (← get).rest.take 3 with
    | ['-', '-', '-'] => some Token.documentStart
    | ['.', '.', '.'] => some Token.documentEnd
    | _ => none
  match marker with
  | none => return none
  | some marker => return if isGapOrEnd (← peek 3) then some marker else none

/-! ## Plain scalars -/

/-- The brackets and the comma of flow form. -/
def isFlowMark (c : Char) : Bool := c ∈ [',', '[', ']', '\x7b', '\x7d']

/-- The characters of a plain scalar up to the next gap. -/
def plainChunk (inFlow : Bool) : List Char → List Char
  | [] => []
  | c :: s =>
    if isGap c then []
    else if c = ':' && (isGapOrEnd s.head? || (inFlow && s.head?.any isFlowMark)) then []
    else if inFlow && (c = '?' || isFlowMark c) then []
    else c :: plainChunk inFlow s

/-- The line ends in a run of spaces and line ends; `none` if a document marker follows one. -/
def breaksAndSpaces : Nat → Scan (Option (List Char))
  | 0 => return some []
  | fuel + 1 => do
    let _ ← skipWhile (· = ' ')
    match ← lineBreak with
    | none => return some []
    | some c =>
      if (← marker?).isSome then return none
      return (← breaksAndSpaces fuel).map (c :: ·)

/-- What a line end counts as, with the line ends behind it: one alone is a space. -/
def folded (first : Char) (others : List Char) : List Char :=
  if first ≠ '\n' then first :: others else if others.isEmpty then [' '] else others

/-- Passes the gap behind a part of a plain scalar, and gives what it counts as; nothing, if the
scalar ends. -/
def plainGap : Scan (List Char) := do
  let spaces ← skipWhile (· = ' ')
  match ← lineBreak with
  | none => return spaces
  | some first =>
    allowKey true
    if (← marker?).isSome then return []
    match ← breaksAndSpaces (← get).size.succ with
    | none => return []
    | some others => return folded first others

/-- Goes on with a plain scalar: `done` is what it holds already, the last character first, and
`gap` the gap behind. -/
def plainFrom (indent : Int) : Nat → List Char → List Char → Scan (List Char)
  | 0, done, _ => return done.reverse
  | fuel + 1, done, gap => do
    let s ← get
    if (← peek 0) = some '#' then return done.reverse
    let chunk := plainChunk (s.level ≠ 0) s.rest
    -- that a colon ends the scalar is known by the character behind it
    if (← peek chunk.length) = some ':' then touch (chunk.length + 1)
    if chunk.isEmpty then return done.reverse
    allowKey false
    skip chunk.length
    let done := chunk.reverse ++ (gap.reverse ++ done)
    let gap ← plainGap
    let s ← get
    if gap.isEmpty || s.rest.head? = some '#' || (s.level = 0 && decide (s.column < indent)) then
      return done.reverse
    plainFrom indent fuel done gap

/-! ## Quoted scalars -/

/-- The character of an escape by one letter. -/
def escaped? : Char → Option Char
  | '0' => some '\x00'
  | 'a' => some '\x07'
  | 'b' => some '\x08'
  | 't' => some '\t'
  | '\t' => some '\t'
  | 'n' => some '\n'
  | 'v' => some '\x0b'
  | 'f' => some '\x0c'
  | 'r' => some '\r'
  | 'e' => some '\x1b'
  | ' ' => some ' '
  | '"' => some '"'
  | '\\' => some '\\'
  | '/' => some '/'
  | 'N' => some (Char.ofNat 0x85)
  | '_' => some (Char.ofNat 0xA0)
  | 'L' => some (Char.ofNat 0x2028)
  | 'P' => some (Char.ofNat 0x2029)
  | _ => none

/-- How many digits follow the letter of an escape by a code. -/
def codeLength? : Char → Option Nat
  | 'x' => some 2
  | 'u' => some 4
  | 'U' => some 8
  | _ => none

/-- The value of a hexadecimal digit. -/
def hexValue? (c : Char) : Option Nat :=
  if '0' ≤ c ∧ c ≤ '9' then some (c.toNat - 48)
  else if 'a' ≤ c ∧ c ≤ 'f' then some (c.toNat - 87)
  else if 'A' ≤ c ∧ c ≤ 'F' then some (c.toNat - 55)
  else none

/-- The number that hexadecimal digits denote. -/
def hexNumber (digits : List Char) : Nat :=
  digits.foldl (fun n c => 16 * n + (hexValue? c).getD 0) 0

/-- The line ends in a run of blanks and line ends within quotes; no document marker may follow
one. -/
def quotedBreaks : Nat → Scan (List Char)
  | 0 => return []
  | fuel + 1 => do
    if (← marker?).isSome then malformed
    let _ ← skipWhile fun c => c = ' ' || c = '\t'
    match ← lineBreak with
    | none => return []
    | some c => return c :: (← quotedBreaks fuel)

/-- The codes of characters. -/
def codesOf (s : List Char) : List Nat := s.map Char.toNat

/-- Passes the digits of an escape by a code, and gives the code. -/
def escapedCode (length : Nat) : Scan Nat := do
  let digits := ((← get).rest.take length).takeWhile fun c => (hexValue? c).isSome
  if digits.length < length then
    touch digits.length
    malformed
  let code := hexNumber digits
  if 0x10FFFF < code then throw (.noCharacter code)
  skip length
  return code

/-- Passes a backslash and what it escapes, and gives the codes that this stands for. -/
def escape : Scan (List Nat) := do
  skip 1
  match ← peek 0 with
  | none => malformed
  | some c =>
    match escaped? c, codeLength? c with
    | some e, _ =>
      skip 1
      return [e.toNat]
    | none, some length =>
      skip 1
      return [← escapedCode length]
    | none, none =>
      if isBreak c then
        let _ ← lineBreak
        return codesOf (← quotedBreaks (← get).size.succ)
      else malformed

/-- Goes on with a quoted scalar up to its closing quote: `done` holds the codes of what there is
already, the last first. -/
def quotedFrom (quote : Char) : Nat → List Nat → Scan (List Nat)
  | 0, _ => malformed
  | fuel + 1, done => do
    match ← peek 0 with
    | none => malformed
    | some c =>
      if c = quote then
        if quote = '\'' then
          -- two of these quotes stand for one
          if (← peek 1) = some '\'' then
            skip 2
            return ← quotedFrom quote fuel (quote.toNat :: done)
        skip 1
        return done.reverse
      else if quote = '"' && c = '\\' then
        let codes ← escape
        quotedFrom quote fuel (codes.reverse ++ done)
      else if isGap c then
        let spaces ← skipWhile fun c => c = ' ' || c = '\t'
        match ← lineBreak with
        | none =>
          if (← get).rest.isEmpty then malformed
          quotedFrom quote fuel ((codesOf spaces).reverse ++ done)
        | some first =>
          let others ← quotedBreaks (← get).size.succ
          quotedFrom quote fuel ((codesOf (folded first others)).reverse ++ done)
      else
        skip 1
        quotedFrom quote fuel (c.toNat :: done)

/-- The token of a quoted scalar. -/
def quotedToken (codes : List Nat) : Token :=
  if codes.any Text.isHalf then .halved codes else .scalar false (codes.map Char.ofNat)

/-! ## Tokens -/

/-- A document marker. -/
def documentMarker (t : Token) : Scan Unit := do
  unwind (-1)
  dropKey
  allowKey false
  skip 3
  emit t

/-- An opening bracket or brace. -/
def opening (t : Token) : Scan Unit := do
  saveKey
  modify fun s => { s with level := s.level + 1, keyAllowed := true }
  skip 1
  emit t

/-- A closing bracket or brace. -/
def closing (t : Token) : Scan Unit := do
  dropKey
  modify fun s => { s with level := s.level - 1, keyAllowed := false }
  skip 1
  emit t

/-- A comma. -/
def comma : Scan Unit := do
  allowKey true
  dropKey
  skip 1
  emit .comma

/-- The hyphen before an item. -/
def item : Scan Unit := do
  let s ← get
  if s.level = 0 then
    if !s.keyAllowed then malformed
    if ← beginBlock s.column then emit .blockListStart
  allowKey true
  dropKey
  skip 1
  emit .item

/-- The question mark before a key. -/
def explicitKey : Scan Unit := do
  let s ← get
  if s.level = 0 then
    if !s.keyAllowed then malformed
    if ← beginBlock s.column then emit .blockMapStart
  allowKey (s.level = 0)
  dropKey
  skip 1
  emit .key

/-- The colon before a value: what stands before it is its key, if it may be one. -/
def colon : Scan Unit := do
  let s ← get
  match s.keys.find? fun k => k.level = s.level with
  | some k =>
    set { s with keys := s.keys.filter fun k => k.level ≠ s.level }
    -- what was scanned since the key began stands behind both tokens
    modify fun s => s.insert k.number .key
    if s.level = 0 then
      if ← beginBlock k.column then modify fun s => s.insert k.number .blockMapStart
    allowKey false
  | none =>
    if s.level = 0 then
      if !s.keyAllowed then malformed
      if ← beginBlock s.column then emit .blockMapStart
    allowKey (s.level = 0)
    dropKey
  skip 1
  emit .value

/-- A scalar between quotes. -/
def quotedScalar (quote : Char) : Scan Unit := do
  saveKey
  allowKey false
  skip 1
  emit (quotedToken (← quotedFrom quote (← get).size.succ []))

/-- A scalar without quotes. -/
def plainScalar : Scan Unit := do
  saveKey
  allowKey false
  let s ← get
  emit (.scalar true (← plainFrom (s.indent + 1) s.size.succ [] []))

/-- The characters that begin no plain scalar, unless they are followed by something. -/
def isMark (c : Char) : Bool :=
  c ∈ ['-', '?', ':', ',', '[', ']', '\x7b', '\x7d', '#', '&', '*', '!', '|', '>', '\'', '"', '%',
    '@', '\x60']

/-- Takes the token that begins with a character and is no document marker. -/
def ordinaryToken (c : Char) : Scan Unit := do
  let s ← get
  -- the place behind is looked at only where it matters, since a fault may be there
  let beforeGap ← if c ∈ ['-', '?', ':'] then do pure (isGapOrEnd (← peek 1)) else pure true
  if c = '[' then opening .flowListStart
  else if c = '\x7b' then opening .flowMapStart
  else if c = ']' then closing .flowListEnd
  else if c = '\x7d' then closing .flowMapEnd
  else if c = ',' then comma
  else if c = '-' && beforeGap then item
  else if c = '?' && (s.level ≠ 0 || beforeGap) then explicitKey
  else if c = ':' && (s.level ≠ 0 || beforeGap) then colon
  else if c = '\'' || c = '"' then quotedScalar c
  else if !(isGap c || isMark c) then plainScalar
  else if !beforeGap && (c = '-' || (s.level = 0 && (c = '?' || c = ':'))) then plainScalar
  else malformed

/-- Takes the token that begins with a character. -/
def token (c : Char) : Scan Unit := do
  let atMargin := (← get).column = 0
  if atMargin && c = '%' then malformed
  else if atMargin && (c = '-' || c = '.') then
    match ← marker? with
    | some marker => documentMarker marker
    | none => ordinaryToken c
  else ordinaryToken c

/-- Takes the next token; says whether the text has come to its end instead. -/
def nextToken : Scan Bool := do
  dropStaleKeys
  toNextToken (← get).size.succ
  dropStaleKeys
  unwind (← get).column
  match ← peek 0 with
  | none =>
    unwind (-1)
    dropKey
    return true
  | some c =>
    token c
    return false

/-- The tokens that are certain: those before any that may turn out to be a key. -/
def Scanner.certain (s : Scanner) : List Token :=
  let possible := s.keys.filter fun k => !s.isStale k
  (s.found.drop (s.count - possible.foldl (fun n k => min n k.number) s.count)).reverse

/-- Takes tokens up to the end of the text, or up to a fault. -/
def Scanner.run : (fuel : Nat) → Scanner → List Token
  | 0, s => s.certain ++ [.broken .malformed]
  | fuel + 1, s =>
    match nextToken s with
    | .error fault => s.certain ++ [.broken fault]
    | .ok (true, s) => s.found.reverse
    | .ok (false, s) => s.run fuel

/-- A scanner at the beginning of a text. -/
def Scanner.ofSource (source : Source) : Scanner where
  size := source.text.length
  rest := if source.text.head? = some orderMark then source.text.tail else source.text
  ending := source.ending
  index := 0
  line := 0
  column := 0
  found := []
  count := 0
  indent := -1
  indents := []
  level := 0
  keyAllowed := true
  keys := []

/-- The tokens of a text. -/
def tokens (source : Source) : List Token :=
  (Scanner.ofSource source).run (source.text.length + 1)

end SectionTimes.Yaml
