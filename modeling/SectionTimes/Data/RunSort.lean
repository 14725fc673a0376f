/-!
# Sorting by runs

A list is cut into runs that are sorted already, short runs are made longer by insertion, and
neighbouring runs are merged.  Where the relation is an order, the result is that of every other
stable sort.  This method matters where it is none, as with numbers among which some are not
comparable: then the result depends on which elements are compared, and all the choices of the
method (the least length of a run, the place where a search begins, the order of merges) show.
-/

namespace SectionTimes.RunSort

variable {α : Type}

/-! ## Searching -/

/-- The end of the `early` places from `low` to `high`, found by halves. -/
def bisect (early : Nat → Bool) (low high : Nat) : Nat :=
  if low < high then
    let middle := (low + high) / 2
    if early middle then bisect early (middle + 1) high else bisect early low middle
  else low
termination_by high - low

/-- The last step known to pass and the first that does not, where each step goes about twice as
far as the one before and none beyond a limit. -/
def stride (passes : Nat → Bool) (limit last step : Nat) : Nat × Nat :=
  if step < limit then
    if passes step then stride passes limit step (2 * step + 1) else (last, step)
  else (last, limit)
termination_by limit - step

/-- The end of the `early` places below `count`, looked for in growing steps from a place. -/
def boundary (early : Nat → Bool) (count start : Nat) : Nat :=
  if early start then
    let (last, step) := stride (fun k => early (start + k)) (count - start) 0 1
    bisect early (start + last + 1) (start + step)
  else
    let (last, step) := stride (fun k => !early (start - k)) (start + 1) 0 1
    bisect early (start + 1 - step) (start - last)

/-- What holds of the element at a place of a list. -/
def holdsAt (p : α → Bool) (xs : List α) : Nat → Bool :=
  let elements := xs.toArray
  fun i => elements[i]?.any p

/-! ## Merging two runs -/

/-- The end of two runs at which their merging begins. -/
inductive Side where
  /-- The least elements come first. -/
  | front
  /-- The greatest elements come first. -/
  | back
  deriving DecidableEq, Repr

/-- Two runs being merged, in the order in which their elements come. -/
structure Merging (α : Type) where
  /-- What is left of the run of which the last element will come last. -/
  kept : List α
  /-- What is left of the other run. -/
  other : List α
  /-- What has come, the last first. -/
  merged : List α

namespace Merging

/-- Whether nothing is left to decide. -/
def isDone (m : Merging α) : Bool := m.other.isEmpty || m.kept.length ≤ 1

/-- All elements in the order of the merge, where nothing is left to decide. -/
def result (m : Merging α) : List α := m.merged.reverse ++ m.other ++ m.kept

/-- Moves elements of the kept run. -/
def moveKept (n : Nat) (m : Merging α) : Merging α :=
  ⟨m.kept.drop n, m.other, (m.kept.take n).reverse ++ m.merged⟩

/-- Moves elements of the other run. -/
def moveOther (n : Nat) (m : Merging α) : Merging α :=
  ⟨m.kept, m.other.drop n, (m.other.take n).reverse ++ m.merged⟩

end Merging

/-- Moves elements one by one until one run has given `patience` in a row; `ahead` tells whether
an element of the other run comes ahead of one of the kept run. -/
def moveSingly (ahead : α → α → Bool) (patience : Nat) (fromKept fromOther : Nat) :
    List α → List α → List α → Merging α
  | k :: kept, o :: other, merged =>
    -- the last element of the kept run is not compared: it comes last
    if kept.isEmpty || patience ≤ fromKept || patience ≤ fromOther then
      ⟨k :: kept, o :: other, merged⟩
    else if ahead o k then
      moveSingly ahead patience 0 (fromOther + 1) (k :: kept) other (o :: merged)
    else moveSingly ahead patience (fromKept + 1) 0 kept (o :: other) (k :: merged)
  | kept, other, merged => ⟨kept, other, merged⟩
termination_by kept other => kept.length + other.length

/-- How many elements at the front of a list come ahead, found by a search from the front.  At
the back, the list stands in reverse, and so does the search. -/
def countAhead (side : Side) (comes : α → Bool) (xs : List α) : Nat :=
  match side with
  | .front => boundary (holdsAt comes xs) xs.length 0
  | .back =>
    xs.length - boundary (holdsAt (fun x => !comes x) xs.reverse) xs.length (xs.length - 1)

/-- Moves what comes ahead in the kept run, and one element of the other; with the number of the
former. -/
def sweepKept (side : Side) (ahead : α → α → Bool) (m : Merging α) : Nat × Merging α :=
  match m.other with
  | [] => (0, m)
  | o :: _ =>
    let n := countAhead side (fun k => !ahead o k) m.kept
    let m := m.moveKept n
    (n, if m.isDone then m else m.moveOther 1)

/-- Moves what comes ahead in the other run, and one element of the kept; with the number of the
former. -/
def sweepOther (side : Side) (ahead : α → α → Bool) (m : Merging α) : Nat × Merging α :=
  match m.kept with
  | [] => (0, m)
  | k :: _ =>
    let n := countAhead side (fun o => ahead o k) m.other
    let m := m.moveOther n
    (n, if m.isDone then m else m.moveKept 1)

/-- The length of a sweep that is worth a search. -/
def worthwhile : Nat := 7

/-- Sweeps both runs in turn while that is worthwhile, with less patience after each turn. -/
def sweepAll (side : Side) (ahead : α → α → Bool) :
    (fuel patience : Nat) → Merging α → Nat × Merging α
  | 0, patience, m => (patience, m)
  | fuel + 1, patience, m =>
    -- each turn makes the next sweeps begin earlier, and their end makes them begin later
    let patience := if 1 < patience then patience - 1 else patience
    let (first, second) := match side with
      | .front => (sweepKept side ahead, sweepOther side ahead)
      | .back => (sweepOther side ahead, sweepKept side ahead)
    let (n, m) := first m
    if m.isDone then (patience, m)
    else
      let (k, m) := second m
      if m.isDone then (patience, m)
      else if worthwhile ≤ n || worthwhile ≤ k then sweepAll side ahead fuel patience m
      else (patience + 1, m)

/-- Merges until nothing is left to decide; with the patience at the end. -/
def mergeAll (side : Side) (ahead : α → α → Bool) :
    (fuel patience : Nat) → Merging α → Nat × Merging α
  | 0, patience, m => (patience, m)
  | fuel + 1, patience, m =>
    let m := moveSingly ahead patience 0 0 m.kept m.other m.merged
    if m.isDone then (patience, m)
    else
      let (patience, m) := sweepAll side ahead (fuel + 1) (patience + 1) m
      if m.isDone then (patience, m) else mergeAll side ahead fuel patience m

/-- Merges from one end; the first element of the other run comes first. -/
def mergeFrom (side : Side) (ahead : α → α → Bool) (patience : Nat) (kept other : List α) :
    Nat × List α :=
  let m := (Merging.mk kept other []).moveOther 1
  let (patience, m) :=
    if m.isDone then (patience, m)
    else mergeAll side ahead (kept.length + other.length) patience m
  (patience, m.result)

/-- Merges two runs.  What stands in its place already is left there, and of the rest the shorter
run is kept; with the patience at the end. -/
def mergeRuns (less : α → α → Bool) (patience : Nat) (left right : List α) : Nat × List α :=
  match right with
  | [] => (patience, left)
  | r :: _ =>
    -- on the left the first elements stand in their place already, and on the right the last
    let n := boundary (holdsAt (fun x => !less r x) left) left.length 0
    match (left.drop n).getLast? with
    | none => (patience, left ++ right)
    | some l =>
      let k := boundary (holdsAt (fun x => less x l) right) right.length (right.length - 1)
      let (patience, middle) :=
        if k = 0 then (patience, left.drop n)
        else if left.length - n ≤ k then
          mergeFrom .front (fun o k => less o k) patience (left.drop n) (right.take k)
        else
          let (patience, reversed) := mergeFrom .back (fun o k => less k o) patience
            (right.take k).reverse (left.drop n).reverse
          (patience, reversed.reverse)
      (patience, left.take n ++ middle ++ right.drop k)

/-! ## Cutting into runs -/

/-- How many elements follow one another as they should, behind a first. -/
def followers (follows : α → α → Bool) : α → List α → Nat
  | _, [] => 0
  | x, y :: ys => if follows x y then followers follows y ys + 1 else 0

/-- The run with which a list begins, sorted, and what follows it.  A run that falls all the way
is turned round. -/
def firstRun (less : α → α → Bool) : List α → List α × List α
  | x :: y :: ys =>
    if less y x then
      let n := followers (fun a b => less b a) x (y :: ys)
      ((x :: (y :: ys).take n).reverse, (y :: ys).drop n)
    else
      let n := followers (fun a b => !less b a) x (y :: ys)
      (x :: (y :: ys).take n, (y :: ys).drop n)
  | xs => (xs, [])

/-- Puts an element into a run, behind those that it is not less than. -/
def insert (less : α → α → Bool) (run : List α) (x : α) : List α :=
  let n := bisect (holdsAt (fun y => !less x y) run) 0 run.length
  run.take n ++ x :: run.drop n

/-- The least length of a run: a list of fewer than 64 elements is one run, and others have about
as many runs as a power of two. -/
def leastLength (count : Nat) : Nat :=
  if count < 64 then count
  else
    let runs := Nat.pow 2 (count.log2 - 5)
    (count + (runs - 1)) / runs

/-- The runs of a list, each at least as long as is asked, but perhaps the last. -/
def cut (less : α → α → Bool) (least : Nat) : (fuel : Nat) → List α → List (List α)
  | 0, _ => []
  | _, [] => []
  | fuel + 1, xs =>
    let (run, rest) := firstRun less xs
    let missing := least - run.length
    (rest.take missing).foldl (insert less) run :: cut less least fuel (rest.drop missing)

/-! ## The order of merges -/

/-- How many binary digits it takes to tell the middles of two neighbouring runs apart, as
fractions of the whole. -/
def depth (count start left right : Nat) : Nat :=
  let middle := 2 * start + left
  let next := middle + left + right
  1 + ((List.range (count.log2 + 2)).findIdx fun k =>
    middle * Nat.pow 2 k / count ≠ next * Nat.pow 2 k / count)

/-- A run that waits for its right neighbour. -/
structure Pending (α : Type) where
  /-- The depth of the boundary behind it. -/
  depth : Nat
  run : List α

/-- The state of merging: the patience, the runs that wait, the last first, and the run at the
right of them. -/
structure Progress (α : Type) where
  patience : Nat
  waiting : List (Pending α)
  /-- The number of elements in them. -/
  start : Nat
  /-- The run at the right. -/
  current : List α

/-- Merges runs that wait behind deeper boundaries than a new one with the run at the right. -/
def settle (less : α → α → Bool) (depth : Nat) :
    (patience : Nat) → List (Pending α) → List α → Nat × List (Pending α) × List α
  | patience, [], current => (patience, [], current)
  | patience, p :: waiting, current =>
    if depth < p.depth then
      let (patience, current) := mergeRuns less patience p.run current
      settle less depth patience waiting current
    else (patience, p :: waiting, current)

/-- Goes on to the next run. -/
def advance (less : α → α → Bool) (count : Nat) (s : Progress α) (next : List α) : Progress α :=
  let deep := depth count s.start s.current.length next.length
  let (patience, waiting, current) := settle less deep s.patience s.waiting s.current
  ⟨patience, ⟨deep, current⟩ :: waiting, s.start + s.current.length, next⟩

/-- Merges all that is left, a run that waits with the shorter of its neighbours. -/
def finish (less : α → α → Bool) : (fuel patience : Nat) → List (List α) → List α → List α
  | 0, _, waiting, current => waiting.reverse.flatten ++ current
  | _, _, [], current => current
  | fuel + 1, patience, [p], current =>
    finish less fuel (mergeRuns less patience p current).1 []
      (mergeRuns less patience p current).2
  | fuel + 1, patience, p :: q :: waiting, current =>
    if q.length < current.length then
      let (patience, merged) := mergeRuns less patience q p
      finish less fuel patience (merged :: waiting) current
    else
      let (patience, merged) := mergeRuns less patience p current
      finish less fuel patience (q :: waiting) merged

/-- The elements of a list, sorted. -/
def sorted (less : α → α → Bool) (xs : List α) : List α :=
  match cut less (leastLength xs.length) xs.length xs with
  | [] => []
  | run :: runs =>
    let s := runs.foldl (advance less xs.length) ⟨worthwhile, [], 0, run⟩
    finish less (s.waiting.length + 1) s.patience (s.waiting.map Pending.run) s.current

end SectionTimes.RunSort
