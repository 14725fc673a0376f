import Mathlib.Data.List.Basic
import SectionTimes.Report.Format

/-!
# Comma-separated values

How a text is divided into rows of fields.  A comma ends a field and a line feed ends a row; between
double quotes both belong to the field, and two quotes stand for one.  A reader goes through a text
character by character and gives up where a quote stands in a field that does not begin with one,
where something other than the end of the field stands behind a closing quote, or where a quote is
left open.  So what it reads is read alike by every reader of this form.

A text written as a field is read as that field, whatever its characters are.
-/

namespace SectionTimes.Text.SeparatedValues

open Format

/-! ## The reader -/

/-- Where the reader of a row stands. -/
inductive Place where
  /-- In a field without quotes, or at the beginning of a field, which is then empty. -/
  | bare (field : List Char)
  /-- Between quotes. -/
  | quoted (field : List Char)
  /-- Behind a quote that ends the field, unless another one follows. -/
  | closed (field : List Char)
  deriving DecidableEq, Repr

/-- What was read of a text. -/
structure Reading where
  /-- The rows that are complete. -/
  rows : List (List (List Char))
  /-- The fields of the last row that are complete. -/
  fields : List (List Char)
  place : Place
  deriving DecidableEq, Repr

namespace Reading

/-- A field ends, and another one begins in the same row. -/
def endField (r : Reading) (field : List Char) : Reading :=
  ⟨r.rows, r.fields ++ [field], .bare []⟩

/-- A field ends, and the row with it. -/
def endRow (r : Reading) (field : List Char) : Reading :=
  ⟨r.rows ++ [r.fields ++ [field]], [], .bare []⟩

/-- The rows of a text that ends here. -/
def finish? (r : Reading) : Option (List (List (List Char))) :=
  match r.place with
  | .bare field => some (r.rows ++ [r.fields ++ [field]])
  | .quoted _ => none
  | .closed field => some (r.rows ++ [r.fields ++ [field]])

end Reading

/-- One character of a text. -/
def step (r : Reading) (c : Char) : Option Reading :=
  match r.place with
  | .bare field =>
    if c = ',' then some (r.endField field)
    else if c = '\n' then some (r.endRow field)
    else if c ≠ '"' then some { r with place := .bare (field ++ [c]) }
    else if field = [] then some { r with place := .quoted [] }
    else none
  | .quoted field =>
    some { r with place := if c = '"' then .closed field else .quoted (field ++ [c]) }
  | .closed field =>
    if c = ',' then some (r.endField field)
    else if c = '\n' then some (r.endRow field)
    else if c = '"' then some { r with place := .quoted (field ++ [c]) }
    else none

/-- Reads on from somewhere in a text. -/
def read? (r : Reading) (s : List Char) : Option Reading := s.foldlM step r

/-- The rows of a text, each by its fields. -/
def rows? (text : String) : Option (List (List String)) :=
  ((read? ⟨[], [], .bare []⟩ text.toList).bind Reading.finish?).map
    (·.map (·.map String.ofList))

example : rows? "a,\"b\n,\"\"\"\n,c" = some [["a", "b\n,\""], ["", "c"]] := by decide

example : rows? "a\"b\"" = none ∧ rows? "\"a\"b" = none ∧ rows? "\"a" = none := by decide

/-! ## Fields read back -/

variable {rows : List (List (List Char))} {fields : List (List Char)} {field s t : List Char}
  {c : Char} {quoteReturns : Bool}

theorem read?_append (r : Reading) (s t : List Char) :
    read? r (s ++ t) = (read? r s).bind fun r' => read? r' t := by
  unfold read?
  rw [List.foldlM_append]
  rfl

theorem read?_cons (r : Reading) (c : Char) (s : List Char) :
    read? r (c :: s) = (step r c).bind fun r' => read? r' s := by
  unfold read?
  rw [List.foldlM_cons]
  rfl

/-- A field without characters that need quotes is read as it stands. -/
theorem read?_bare (hs : ∀ c ∈ s, needsQuotes quoteReturns c = false) :
    read? ⟨rows, fields, .bare field⟩ s = some ⟨rows, fields, .bare (field ++ s)⟩ := by
  induction s generalizing field with
  | nil =>
    rw [List.append_nil]
    rfl
  | cons c s ih =>
    obtain ⟨hc, hs⟩ := List.forall_mem_cons.1 hs
    simp only [needsQuotes, Bool.or_eq_false_iff, decide_eq_false_iff_not] at hc
    obtain ⟨⟨⟨hcomma, hquote⟩, hfeed⟩, -⟩ := hc
    have hstep : step ⟨rows, fields, .bare field⟩ c =
        some ⟨rows, fields, .bare (field ++ [c])⟩ := by
      simp [step, hcomma, hquote, hfeed]
    rw [read?_cons, hstep, Option.bind_some, ih hs, List.append_assoc]
    rfl

/-- What stands between quotes is read as it was before its quotes were doubled. -/
theorem read?_quoted (s : List Char) :
    read? ⟨rows, fields, .quoted field⟩ (s.flatMap fun c => if c = '"' then ['"', '"'] else [c]) =
      some ⟨rows, fields, .quoted (field ++ s)⟩ := by
  induction s generalizing field with
  | nil =>
    rw [List.append_nil]
    rfl
  | cons c s ih =>
    have hchar : read? ⟨rows, fields, .quoted field⟩ (if c = '"' then ['"', '"'] else [c]) =
        some ⟨rows, fields, .quoted (field ++ [c])⟩ := by
      by_cases hquote : c = '"'
      · simp [hquote, read?, step]
      · simp [hquote, read?, step]
    rw [List.flatMap_cons, read?_append, hchar, Option.bind_some, ih, List.append_assoc]
    rfl

/-- Where the reader stands behind a field that was written. -/
def behind (quoteReturns : Bool) (s : List Char) : Place :=
  if s.any (needsQuotes quoteReturns) then .closed s else .bare s

theorem read?_csvField (s : List Char) :
    read? ⟨rows, fields, .bare []⟩ (csvField quoteReturns s) =
      some ⟨rows, fields, behind quoteReturns s⟩ := by
  unfold csvField behind
  by_cases hquotes : s.any (needsQuotes quoteReturns) = true
  · rw [if_pos hquotes, if_pos hquotes, List.cons_append, read?_cons]
    show read? ⟨rows, fields, .quoted []⟩ _ = _
    rw [read?_append, read?_quoted]
    rfl
  · rw [if_neg hquotes, if_neg hquotes]
    simp only [List.any_eq_true, not_exists, not_and, Bool.not_eq_true] at hquotes
    exact read?_bare hquotes

/-- Behind a field it makes no difference whether it was written between quotes. -/
theorem step_behind_comma (s : List Char) :
    step ⟨rows, fields, behind quoteReturns s⟩ ',' = some ⟨rows, fields ++ [s], .bare []⟩ := by
  unfold behind
  split <;> rfl

theorem step_behind_lineFeed (s : List Char) :
    step ⟨rows, fields, behind quoteReturns s⟩ '\n' =
      some ⟨rows ++ [fields ++ [s]], [], .bare []⟩ := by
  unfold behind
  split <;> rfl

theorem finish?_behind (s : List Char) :
    Reading.finish? ⟨rows, fields, behind quoteReturns s⟩ = some (rows ++ [fields ++ [s]]) := by
  unfold behind
  split <;> rfl

/-! ## Rows read back -/

/-- A row of two fields as it is written. -/
def rowText (quoteReturns : Bool) (row : String × String) : List Char :=
  (csvRow quoteReturns row.1 row.2).toList

/-- The fields of a row. -/
def rowFields (row : String × String) : List (List Char) := [row.1.toList, row.2.toList]

theorem read?_rowText (row : String × String) :
    read? ⟨rows, [], .bare []⟩ (rowText quoteReturns row) =
      some ⟨rows, [row.1.toList], behind quoteReturns row.2.toList⟩ := by
  unfold rowText csvRow
  rw [String.toList_ofList, read?_append, read?_csvField, Option.bind_some, read?_cons,
    step_behind_comma, Option.bind_some, List.nil_append, read?_csvField]

/-- Rows with line feeds between them are read as these rows. -/
theorem read?_intercalate (row : String × String) (behind : List (String × String)) :
    (read? ⟨rows, [], .bare []⟩
        (['\n'].intercalate ((row :: behind).map (rowText quoteReturns)))).bind Reading.finish? =
      some (rows ++ (row :: behind).map rowFields) := by
  induction behind generalizing rows row with
  | nil =>
    rw [List.map_singleton, List.intercalate_singleton, read?_rowText, Option.bind_some,
      finish?_behind]
    rfl
  | cons next behind ih =>
    rw [List.map_cons, List.map_cons, List.intercalate_cons_cons, List.append_assoc, read?_append,
      read?_rowText, Option.bind_some, List.singleton_append, read?_cons, step_behind_lineFeed,
      Option.bind_some, ← List.map_cons, ih, List.append_assoc]
    rfl

theorem rows?_joined (row : String × String) (behind : List (String × String)) :
    rows? (joined "\n" ((row :: behind).map fun row => csvRow quoteReturns row.1 row.2)) =
      some ((row :: behind).map fun row => [row.1, row.2]) := by
  have htext :
      (joined "\n" ((row :: behind).map fun row => csvRow quoteReturns row.1 row.2)).toList =
        ['\n'].intercalate ((row :: behind).map (rowText quoteReturns)) := by
    unfold joined
    rw [String.toList_intercalate, List.map_map]
    rfl
  have hfields : ∀ row : String × String, (rowFields row).map String.ofList = [row.1, row.2] := by
    intro row
    simp [rowFields]
  unfold rows?
  rw [htext, read?_intercalate, Option.map_some, List.nil_append, List.map_map]
  exact congrArg some (List.map_congr_left fun row _ => hfields row)

end SectionTimes.Text.SeparatedValues
