import SectionTimes.CommandLine.Session
import SectionTimes.Proofs.Log

/-!
# What work prints

A program prints block after block, and what was printed stays.  Work made of parts that print
blocks of one sort prints blocks of that sort; most work prints nothing.
-/

namespace SectionTimes.CommandLine

variable {P : List String → Prop} {α β : Type} {work : Work α}

/-- What was printed in one session and is in another, behind it blocks of one sort. -/
def Adds (P : List String → Prop) (s s' : Session) : Prop :=
  ∃ blocks : List (List String),
    s'.printed = s.printed ++ blocks.flatten ∧ ∀ block ∈ blocks, P block

/-- Work that prints blocks of one sort, whether or not it fails. -/
def Prints {α : Type} (P : List String → Prop) (work : Work α) : Prop :=
  ∀ s, Adds P s (endOf (work.run s))

/-- Work that prints nothing. -/
def IsSilent {α : Type} (work : Work α) : Prop :=
  ∀ s, (endOf (work.run s)).printed = s.printed

theorem adds_of_eq {s s' : Session} (h : s'.printed = s.printed) : Adds P s s' :=
  ⟨[], h.trans (List.append_nil _).symm, fun _ hblock => absurd hblock List.not_mem_nil⟩

theorem Adds.trans {s s' s'' : Session} (h : Adds P s s') (h' : Adds P s' s'') : Adds P s s'' := by
  obtain ⟨blocks, hprinted, hblocks⟩ := h
  obtain ⟨blocks', hprinted', hblocks'⟩ := h'
  refine ⟨blocks ++ blocks', ?_, fun block hblock => ?_⟩
  · rw [hprinted', hprinted, List.flatten_append, List.append_assoc]
  · exact (List.mem_append.1 hblock).elim (hblocks block) (hblocks' block)

theorem IsSilent.prints (h : IsSilent work) : Prints P work := fun s => adds_of_eq (h s)

/-! ## Steps -/

theorem isSilent_pure (a : α) : IsSilent (pure a : Work α) := fun _ => rfl

theorem isSilent_throw (stop : Stop) : IsSilent (throw stop : Work α) := fun _ => rfl

theorem isSilent_get : IsSilent (get : Work Session) := fun _ => rfl

theorem isSilent_modify {f : Session → Session} (h : ∀ s, (f s).printed = s.printed) :
    IsSilent (modify f : Work Unit) := h

theorem isSilent_note (level : Level) (message : String) : IsSilent (Work.note level message) :=
  fun _ => rfl

theorem run_noting {ε : Type} (stop : ε → Stop) (x : Logged ε α) (s : Session) :
    (Work.noting stop x).run s =
      match x.run s.link.log with
      | .ok a log => .ok a { s with link := { s.link with log } }
      | .error e log => .error (stop e) { s with link := { s.link with log } } := by
  unfold Work.noting EStateM.run
  dsimp only
  cases x s.link.log <;> rfl

theorem isSilent_noting {ε : Type} (stop : ε → Stop) (x : Logged ε α) :
    IsSilent (Work.noting stop x) := by
  intro s
  rw [run_noting]
  cases x.run s.link.log <;> rfl

theorem run_attempt (x : Device.Talk α) (s : Session) :
    (Work.attempt x).run s =
      match x.run s.link with
      | .ok a link => .ok (.ok a) { s with link }
      | .error e link => .ok (.error e) { s with link } := rfl

theorem isSilent_attempt (x : Device.Talk α) : IsSilent (Work.attempt x) := by
  intro s
  rw [run_attempt]
  cases x.run s.link <;> rfl

theorem prints_print {line : String} (h : P [line]) : Prints P (Work.print line) := fun _ =>
  ⟨[[line]], rfl, fun _ hblock => List.mem_singleton.1 hblock ▸ h⟩

/-! ## Steps one after the other -/

theorem IsSilent.bind {f : α → Work β} (h : IsSilent work) (hf : ∀ a, IsSilent (f a)) :
    IsSilent (work >>= f) := by
  intro s
  have hfirst := h s
  rw [EStateM.run_bind]
  cases hrun : work.run s with
  | error stop s' =>
    rw [hrun] at hfirst
    exact hfirst
  | ok a s' =>
    rw [hrun] at hfirst
    exact (hf a s').trans hfirst

/-- What follows a check is silent if it is without the check. -/
theorem isSilent_unless {c : Prop} [Decidable c] {stop : Stop} {rest : Unit → Work β}
    (h : IsSilent (rest ())) :
    IsSilent (if c then (throw stop : Work Unit) >>= rest else rest ()) := by
  split
  · exact fun _ => rfl
  · exact h

theorem Prints.bind {f : α → Work β} (h : Prints P work) (hf : ∀ a, Prints P (f a)) :
    Prints P (work >>= f) := by
  intro s
  have hfirst := h s
  rw [EStateM.run_bind]
  cases hrun : work.run s with
  | error stop s' =>
    rw [hrun] at hfirst
    exact hfirst
  | ok a s' =>
    rw [hrun] at hfirst
    exact hfirst.trans (hf a s')

/-- What is done about a failure prints behind what was printed until then. -/
theorem Prints.tryCatch {handler : Stop → Work α} (h : Prints P work)
    (hhandler : ∀ stop, Prints P (handler stop)) : Prints P (tryCatch work handler) := by
  intro s
  have hfirst := h s
  rw [Logged.run_tryCatch]
  cases hrun : work.run s with
  | ok a s' =>
    rw [hrun] at hfirst
    exact hfirst
  | error stop s' =>
    rw [hrun] at hfirst
    exact hfirst.trans (hhandler stop s')

theorem isSilent_config (a : Arguments) (environment : Table String String) :
    IsSilent (Work.config a environment) := by
  unfold Work.config
  refine isSilent_get.bind fun s => (isSilent_noting _ _).bind fun file => ?_
  split
  · exact isSilent_pure _
  · exact isSilent_throw _

end SectionTimes.CommandLine
