import Mathlib.Data.List.Basic
import SectionTimes.Text.ShellWord

/-!
# Shell commands

How a shell divides a command into words.  Outside of quotes, spaces and tabs separate words;
between single quotes every character stands for itself, and between double quotes every one that
starts no expansion.  A reader goes through a command character by character and gives up where a
shell would do more than that: at an operator, an expansion, an escape, an assignment, the end of
a line, or where a quote is left open.  So what it reads is a single command, and its words are
what the shell passes on, unless the first one is a reserved word or an alias: it knows none.

A text written as one shell word is read as that one word, whatever its characters are.
-/

namespace SectionTimes.Text.ShellCommand

/-! ## The reader -/

/-- Where the reader of a command stands. -/
inductive Place where
  | between
  /-- In a word, outside of quotes; the word may be empty if it began with quotes. -/
  | bare (word : List Char)
  /-- Between single quotes. -/
  | single (word : List Char)
  /-- Between double quotes. -/
  | double (word : List Char)
  deriving DecidableEq, Repr

/-- What was read of a command. -/
structure Reading where
  /-- The words that are complete. -/
  words : List (List Char)
  place : Place
  deriving DecidableEq, Repr

/-- The characters that separate words. -/
def isSeparator (c : Char) : Bool := c = ' ' || c = '\t'

/-- The characters that outside of quotes are more than themselves: operators, the beginnings of
expansions, patterns and comments, the escape and the end of a line. -/
def operators : List Char :=
  ['|', '&', ';', '<', '>', '(', ')', '$', '\x60', '\\', '*', '?', '[', ']', '#', '~', '!', '^',
    '\x7b', '\x7d', '\n']

/-- The characters that are more than themselves between double quotes. -/
def expansions : List Char := ['$', '\x60', '\\']

/-- A character of a word outside of quotes.  A first word with an equals sign in it would be an
assignment. -/
def takeBare (words : List (List Char)) (word : List Char) (c : Char) : Option Reading :=
  if c = '\'' then some ⟨words, .single word⟩
  else if c = '"' then some ⟨words, .double word⟩
  else if c ∈ operators ∨ c = '=' ∧ words = [] then none
  else some ⟨words, .bare (word ++ [c])⟩

/-- One character of a command. -/
def step (r : Reading) (c : Char) : Option Reading :=
  if c = '\x00' then none
  else
    match r.place with
    | .between => if isSeparator c then some r else takeBare r.words [] c
    | .bare word =>
      if isSeparator c then some ⟨r.words ++ [word], .between⟩ else takeBare r.words word c
    | .single word => some ⟨r.words, if c = '\'' then .bare word else .single (word ++ [c])⟩
    | .double word =>
      if c = '"' then some ⟨r.words, .bare word⟩
      else if c ∈ expansions then none
      else some ⟨r.words, .double (word ++ [c])⟩

/-- The words of a command that ends here. -/
def Reading.finish? (r : Reading) : Option (List (List Char)) :=
  match r.place with
  | .between => some r.words
  | .bare word => some (r.words ++ [word])
  | .single _ => none
  | .double _ => none

/-- Reads on from somewhere in a command. -/
def read? (r : Reading) (s : List Char) : Option Reading := s.foldlM step r

/-- The words into which a shell divides a command. -/
def words? (command : String) : Option (List String) :=
  ((read? ⟨[], .between⟩ command.toList).bind Reading.finish?).map (·.map String.ofList)

example : words? "ls  -l \"a b\"'c;d'" = some ["ls", "-l", "a bc;d"] := by decide

example : words? "ls a; rm b" = none ∧ words? "ls \"$HOME\"" = none ∧ words? "ls 'a" = none := by
  decide

/-! ## Reading words back -/

variable {words : List (List Char)} {word s t : List Char} {c : Char}

theorem read?_append (r : Reading) (s t : List Char) :
    read? r (s ++ t) = (read? r s).bind fun r' => read? r' t := by
  unfold read?
  rw [List.foldlM_append]
  rfl

theorem read?_cons (r : Reading) (c : Char) (s : List Char) :
    read? r (c :: s) = (step r c).bind fun r' => read? r' s := by
  unfold read?
  rw [List.foldlM_cons]
  rfl

/-- What is read holds no null character. -/
theorem null_not_mem_of_read? {r r' : Reading} (h : read? r s = some r') : '\x00' ∉ s := by
  induction s generalizing r with
  | nil => exact List.not_mem_nil
  | cons c s ih =>
    rw [read?_cons, Option.bind_eq_some_iff] at h
    obtain ⟨between, hstep, hrest⟩ := h
    have hc : '\x00' ≠ c := by
      rintro rfl
      cases hstep
    exact List.not_mem_cons_of_ne_of_not_mem hc (ih hrest)

theorem null_not_mem_of_words? {command : String} {ws : List String}
    (h : words? command = some ws) : '\x00' ∉ command.toList := by
  obtain ⟨_, hread, -⟩ := Option.map_eq_some_iff.1 h
  obtain ⟨_, hread, -⟩ := Option.bind_eq_some_iff.1 hread
  exact null_not_mem_of_read? hread

/-- A harmless character is taken into a word, be it at its beginning or later. -/
theorem step_of_isHarmless (hc : isHarmless c = true) (hwords : words ≠ []) :
    step ⟨words, .between⟩ c = some ⟨words, .bare [c]⟩ ∧
      ∀ word, step ⟨words, .bare word⟩ c = some ⟨words, .bare (word ++ [c])⟩ := by
  have hplain : ∀ d, isHarmless d = false → c ≠ d := fun d hd he => by
    rw [he, hd] at hc
    cases hc
  have hall : operators.all (fun d => !isHarmless d) = true := by decide
  have hoperators : ∀ d ∈ operators, isHarmless d = false := by simpa using hall
  have hnull : c ≠ '\x00' := hplain _ (by decide)
  have hseparator : isSeparator c = false := by
    simp [isSeparator, hplain ' ' (by decide), hplain '\t' (by decide)]
  have htake : ∀ word, takeBare words word c = some ⟨words, .bare (word ++ [c])⟩ := by
    intro word
    have hno : ¬ (c ∈ operators ∨ c = '=' ∧ words = []) := by
      rintro (h | ⟨-, h⟩)
      · exact hplain c (hoperators c h) rfl
      · exact hwords h
    unfold takeBare
    rw [if_neg (hplain _ (by decide)), if_neg (hplain _ (by decide)), if_neg hno]
  unfold step
  simp [hnull, hseparator, htake]

theorem read?_of_isHarmless (hs : ∀ c ∈ s, isHarmless c = true) (hwords : words ≠ []) :
    read? ⟨words, .bare word⟩ s = some ⟨words, .bare (word ++ s)⟩ := by
  induction s generalizing word with
  | nil =>
    rw [List.append_nil]
    rfl
  | cons c s ih =>
    rw [read?_cons, (step_of_isHarmless (hs c List.mem_cons_self) hwords).2, Option.bind_some,
      ih fun d hd => hs d (List.mem_cons_of_mem _ hd), List.append_assoc]
    rfl

/-- A character that is written between single quotes is read as itself. -/
theorem read?_shellChar (hc : c ≠ '\x00') :
    read? ⟨words, .single word⟩ (shellChar c) = some ⟨words, .single (word ++ [c])⟩ := by
  unfold shellChar
  by_cases hquote : c = '\''
  · rw [if_pos hquote, hquote]
    rfl
  · rw [if_neg hquote, read?_cons, step, if_neg hc]
    dsimp only
    rw [if_neg hquote]
    rfl

theorem read?_flatMap_shellChar (hs : '\x00' ∉ s) :
    read? ⟨words, .single word⟩ (s.flatMap shellChar) = some ⟨words, .single (word ++ s)⟩ := by
  induction s generalizing word with
  | nil =>
    rw [List.append_nil]
    rfl
  | cons c s ih =>
    have hc : c ≠ '\x00' := fun he => hs (he ▸ List.mem_cons_self)
    rw [List.flatMap_cons, read?_append, read?_shellChar hc, Option.bind_some,
      ih fun h => hs (List.mem_cons_of_mem _ h), List.append_assoc]
    rfl

/-- A text written as one shell word is read as that word, behind another word. -/
theorem read?_shellWord (hs : '\x00' ∉ s) (hwords : words ≠ []) :
    read? ⟨words, .between⟩ (shellWord s) = some ⟨words, .bare s⟩ := by
  unfold shellWord
  split
  · rename_i hnil
    rw [List.isEmpty_iff.1 hnil]
    rfl
  split
  · rename_i hne hall
    cases s with
    | nil => exact absurd rfl hne
    | cons c s =>
      have hall : ∀ d ∈ c :: s, isHarmless d = true := List.all_eq_true.1 hall
      have hrest : ∀ d ∈ s, isHarmless d = true := fun d hd => hall d (List.mem_cons_of_mem _ hd)
      rw [read?_cons, (step_of_isHarmless (hall c List.mem_cons_self) hwords).1, Option.bind_some,
        read?_of_isHarmless hrest hwords]
      rfl
  · rw [List.cons_append, read?_cons]
    change read? ⟨words, .single []⟩ _ = _
    rw [read?_append, read?_flatMap_shellChar hs]
    rfl

/-! ## Commands with arguments -/

variable {command text : String}

section

variable (h : read? ⟨[], .between⟩ command.toList = some ⟨words, .between⟩) (hwords : words ≠ [])
  (htext : '\x00' ∉ text.toList)

include h hwords htext

/-- An argument is the word in which the reader stands behind it. -/
theorem read?_shellQuote :
    read? ⟨[], .between⟩ (command ++ shellQuote text).toList =
      some ⟨words, .bare text.toList⟩ := by
  unfold shellQuote
  rw [String.toList_append, String.toList_ofList, read?_append, h, Option.bind_some,
    read?_shellWord htext hwords]

/-- A command that has read its words so far takes an argument as one more. -/
theorem words?_append_shellQuote :
    words? (command ++ shellQuote text) = some (words.map String.ofList ++ [text]) := by
  unfold words?
  rw [read?_shellQuote h hwords htext]
  simp [Reading.finish?]

theorem read?_append_shellQuote :
    read? ⟨[], .between⟩ (command ++ shellQuote text ++ " ").toList =
      some ⟨words ++ [text.toList], .between⟩ := by
  rw [String.toList_append, read?_append, read?_shellQuote h hwords htext]
  rfl

end

end SectionTimes.Text.ShellCommand
