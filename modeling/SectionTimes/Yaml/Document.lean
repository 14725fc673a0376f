import SectionTimes.Yaml.Node
import SectionTimes.Yaml.Scalar

/-!
# The value of a configuration file

The tree of a file becomes a value.  Of several entries of a mapping with one key the last counts.
Lists and mappings are filled one after the other in the order in which they are met, those that
stand in one of them after all those that were met before; so of several faults in the values the
one nearest to the root counts.

A mapping that merges another into itself is not taken either.
-/

namespace SectionTimes.Yaml

/-! ## Faults of values -/

/-- Checks a part of a list or mapping that is being filled: a scalar needs a value.  Lists and
mappings are given back, to be filled later. -/
def checkPart (node : Node) : Except Fault (List Node) :=
  match node with
  | .scalar true s => do
    let _ ← plainValue s
    return []
  | .scalar false _ => .ok []
  | .halved _ => .ok []
  | node => .ok [node]

/-- Whether a part is a plain equals sign, which is a text as a key and has no value elsewhere. -/
def Node.isEqualsSign : Node → Bool
  | .scalar true ['='] => true
  | _ => false

/-- Whether a part is the mark for merging. -/
def Node.isMergeMark : Node → Bool
  | .scalar true ['<', '<'] => true
  | _ => false

/-- Checks the key of an entry, which can be no list and no mapping. -/
def checkKey (node : Node) : Except Fault Unit := do
  if node.isEqualsSign then return ()
  if !(← checkPart node).isEmpty then throw .malformed

/-- Fills a list or mapping, and gives the lists and mappings that stand in it. -/
def fill : Node → Except Fault (List Node)
  | .list items => do return (← items.mapM checkPart).flatten
  | .map entries => do
    if entries.any fun e => e.1.isMergeMark then throw .malformed
    let found ← entries.mapM fun (key, value) => do
      checkKey key
      checkPart value
    return found.flatten
  | _ => .ok []

/-- Fills lists and mappings, and then those that stand in them, and so on. -/
def fillAll : (fuel : Nat) → List Node → Except Fault Unit
  | 0, _ => .ok ()
  | fuel + 1, nodes => do
    if nodes.isEmpty then return ()
    fillAll fuel (← nodes.mapM fill).flatten

/-! ## Values -/

mutual

/-- The value of a part. -/
def valueOf : Node → Except Fault Value
  | .scalar true s => plainValue s
  | .scalar false s => .ok (.text (String.ofList s))
  | .halved codes => .ok (.halved codes)
  | .list items => do return .list (← valuesOf items)
  | .map entries => do return .map (← entriesOf [] entries)

/-- The values of the items of a list. -/
def valuesOf : List Node → Except Fault (List Value)
  | [] => .ok []
  | item :: items => do return (← valueOf item) :: (← valuesOf items)

/-- The entries of a mapping, behind those that are `done`. -/
def entriesOf (done : List (Value × Value)) : List (Node × Node) →
    Except Fault (List (Value × Value))
  | [] => .ok done
  | (keyNode, valueNode) :: entries => do
    let key ← if keyNode.isEqualsSign then .ok (.text "=") else valueOf keyNode
    if !key.isKey then throw .malformed
    entriesOf (Value.putEntry key (← valueOf valueNode) done) entries

end

/-- The value of a text; a text without a document has none. -/
def read (source : Source) : Except Fault Value := do
  let ts := tokens source
  match ← Node.ofTokens ts with
  | none => return .null
  | some node =>
    fillAll (ts.length + 1) [.list [node]]
    valueOf node

end SectionTimes.Yaml
