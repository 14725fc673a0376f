import SectionTimes.Text.LineEnd

/-!
# Lines between line ends

Whoever does not look at the ends of lines, and passes over empty ones, finds in a text what stands
between the characters that end lines.  It makes no difference to him that a carriage return and
the line feed behind it are one end.
-/

namespace SectionTimes.Text

/-- The characters that a line can end with. -/
def endsLine (c : Char) : Bool := c = '\r' || c = '\n'

/-- Writes a text before the first line; it is a line of its own if there is none. -/
def writeBefore (s : List Char) : List (List Char) → List (List Char)
  | [] => [s]
  | line :: lines => (s ++ line) :: lines

theorem writeBefore_writeBefore (s t : List Char) (lines : List (List Char)) :
    writeBefore s (writeBefore t lines) = writeBefore (s ++ t) lines := by
  cases lines <;> simp [writeBefore]

theorem endedLines_cons_of_ne {c : Char} (hc : c ≠ '\n') (s : List Char) :
    endedLines (c :: s) = writeBefore [c] (endedLines s) := by
  rw [endedLines, if_neg hc]
  cases endedLines s <;> rfl

theorem splitOnP_cons_of_ne {p : Char → Bool} {c : Char} (hc : p c = false) (s : List Char) :
    (c :: s).splitOnP p = writeBefore [c] (s.splitOnP p) := by
  rw [List.splitOnP_cons_eq_if_modifyHead, if_neg (by simp [hc])]
  cases h : s.splitOnP p with
  | nil => exact absurd h (List.splitOnP_ne_nil p s)
  | cons part parts => rfl

theorem splitOnP_cons_of_pos {p : Char → Bool} {c : Char} (hc : p c = true) (s : List Char) :
    (c :: s).splitOnP p = [] :: s.splitOnP p := by
  rw [List.splitOnP_cons_eq_if_modifyHead, if_pos hc]

section

variable {α : Type} {f : List Char → Option α} (hempty : f [] = none)
  (hend : ∀ line, f (line ++ ['\n']) = f line)

include hempty in
theorem filterMap_writeBefore_nil (lines : List (List Char)) :
    (writeBefore [] lines).filterMap f = lines.filterMap f := by
  cases lines with
  | nil => simp [writeBefore, hempty]
  | cons line lines => rfl

include hempty hend in
/-- A line feed ends the line that was begun, with or without being counted to it. -/
theorem filterMap_writeBefore_lineFeed (t : List Char) {lines parts : List (List Char)}
    (hsame : (writeBefore [] lines).filterMap f = (writeBefore [] parts).filterMap f) :
    (writeBefore t (['\n'] :: lines)).filterMap f =
      (writeBefore t ([] :: parts)).filterMap f := by
  rw [filterMap_writeBefore_nil hempty, filterMap_writeBefore_nil hempty] at hsame
  rw [writeBefore, writeBefore, List.filterMap_cons, List.filterMap_cons, hend, List.append_nil,
    hsame]

include hempty hend in
/-- With any text before the first line, so that the induction can go into a line. -/
theorem filterMap_writeBefore_entryLines (s t : List Char) :
    (writeBefore t (entryLines s)).filterMap f =
      (writeBefore t (s.splitOnP endsLine)).filterMap f := by
  unfold entryLines
  fun_induction unifyEnds s generalizing t with
  | case1 => simp [endedLines, writeBefore]
  | case2 s ih =>
    rw [splitOnP_cons_of_pos rfl, splitOnP_cons_of_pos rfl, endedLines, if_pos rfl]
    apply filterMap_writeBefore_lineFeed hempty hend
    -- the text between the carriage return and the line feed is empty
    rw [ih, filterMap_writeBefore_nil hempty, filterMap_writeBefore_nil hempty, List.filterMap_cons,
      hempty]
  | case3 s _ ih =>
    rw [splitOnP_cons_of_pos rfl, endedLines, if_pos rfl]
    exact filterMap_writeBefore_lineFeed hempty hend t (ih [])
  | case4 c s _ hreturn ih =>
    by_cases hc : c = '\n'
    · subst hc
      rw [splitOnP_cons_of_pos rfl, endedLines, if_pos rfl]
      exact filterMap_writeBefore_lineFeed hempty hend t (ih [])
    · have hends : endsLine c = false := by
        have hreturn : ¬c = '\r' := hreturn
        simp [endsLine, hc, hreturn]
      rw [splitOnP_cons_of_ne hends, endedLines_cons_of_ne hc, writeBefore_writeBefore,
        writeBefore_writeBefore, ih]

include hempty hend in
/-- What is found in the lines of a text is found between the ends of lines. -/
theorem filterMap_entryLines (s : List Char) :
    (entryLines s).filterMap f = (s.splitOnP endsLine).filterMap f := by
  rw [← filterMap_writeBefore_nil hempty, ← filterMap_writeBefore_nil hempty (s.splitOnP endsLine)]
  exact filterMap_writeBefore_entryLines hempty hend s []

include hempty hend in
/-- A character that ends lines divides what is found. -/
theorem filterMap_entryLines_append {c : Char} (hc : endsLine c = true) (s t : List Char) :
    (entryLines (s ++ c :: t)).filterMap f =
      (entryLines s).filterMap f ++ (entryLines t).filterMap f := by
  simp only [filterMap_entryLines hempty hend]
  rw [List.splitOnP_append_cons s t hc, List.filterMap_append]

end

end SectionTimes.Text
