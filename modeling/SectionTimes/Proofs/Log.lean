import Mathlib.Data.List.Forall2
import SectionTimes.Log

/-!
# Runs of logged work

Steps that succeed are done one after the other, each on the notes that the one before it left.
-/

namespace SectionTimes

/-- The state that work ends in, whether or not it fails. -/
def endOf {ε σ α : Type} : EStateM.Result ε σ α → σ
  | .ok _ s => s
  | .error _ s => s

/-- The failure that work ends with, if it fails. -/
def failureOf? {ε σ α : Type} : EStateM.Result ε σ α → Option ε
  | .ok _ _ => none
  | .error e _ => some e

theorem failureOf?_eq_some_iff {ε σ α : Type} {r : EStateM.Result ε σ α} {e : ε} :
    failureOf? r = some e ↔ ∃ s, r = .error e s := by
  cases r <;> simp [failureOf?]

/-- What is made of a result changes neither the state nor the failure. -/
theorem ends_bind_pure {ε σ α β : Type} (x : EStateM ε σ α) (f : α → β) (s : σ) :
    endOf ((x >>= fun a => pure (f a)).run s) = endOf (x.run s) ∧
      failureOf? ((x >>= fun a => pure (f a)).run s) = failureOf? (x.run s) := by
  rw [EStateM.run_bind]
  cases x.run s <;> exact ⟨rfl, rfl⟩

section

variable {ε α β : Type} {x : Except ε α} {f : α → Except ε β}

/-- A result of two steps is one of the second step, on what the first one gave. -/
theorem exists_of_bind {b : β} (h : x >>= f = .ok b) : ∃ a, x = .ok a ∧ f a = .ok b := by
  cases x with
  | error e => cases h
  | ok a => exact ⟨a, rfl, h⟩

theorem bind_eq_ok_iff {b : β} : x >>= f = .ok b ↔ ∃ a, x = .ok a ∧ f a = .ok b := by
  refine ⟨exists_of_bind, ?_⟩
  rintro ⟨a, rfl, h⟩
  exact h

/-- Two steps fail where the first one does, or the second one on what the first one gave. -/
theorem bind_eq_error_iff {e : ε} :
    x >>= f = .error e ↔ x = .error e ∨ ∃ a, x = .ok a ∧ f a = .error e := by
  constructor
  · intro h
    cases x with
    | error e' => exact Or.inl (congrArg Except.error (Except.error.inj h))
    | ok a => exact Or.inr ⟨a, rfl, h⟩
  · rintro (rfl | ⟨a, rfl, h⟩)
    · rfl
    · exact h

/-- Work on all elements of a list succeeds where it does on each of them. -/
theorem mapM_eq_ok_iff {as : List α} {bs : List β} :
    as.mapM f = .ok bs ↔ List.Forall₂ (fun a b => f a = .ok b) as bs := by
  induction as generalizing bs with
  | nil => cases bs <;> simp [pure, Except.pure]
  | cons a as ih =>
    rw [List.mapM_cons, bind_eq_ok_iff, List.forall₂_cons_left_iff]
    refine exists_congr fun b => ?_
    rw [bind_eq_ok_iff]
    constructor
    · rintro ⟨hb, rest, hrest, h⟩
      cases h
      exact ⟨rest, hb, ih.1 hrest, rfl⟩
    · rintro ⟨rest, hb, hrest, rfl⟩
      exact ⟨hb, rest, ih.2 hrest, rfl⟩

/-- Work on all elements of a list fails as it does on the first of them on which it fails. -/
theorem mapM_eq_error_iff {as : List α} {e : ε} :
    as.mapM f = .error e ↔
      ∃ before a behind, as = before ++ a :: behind ∧ (∀ x ∈ before, ∃ b, f x = .ok b) ∧
        f a = .error e := by
  induction as with
  | nil => simp [pure, Except.pure]
  | cons a as ih =>
    rw [List.mapM_cons, bind_eq_error_iff]
    constructor
    · rintro (ha | ⟨b, hb, h⟩)
      · exact ⟨[], a, as, rfl, nofun, ha⟩
      · rcases bind_eq_error_iff.1 h with h | ⟨_, _, h⟩
        · obtain ⟨before, x, behind, rfl, hbefore, hx⟩ := ih.1 h
          exact ⟨a :: before, x, behind, rfl, List.forall_mem_cons.2 ⟨⟨b, hb⟩, hbefore⟩, hx⟩
        · cases h
    · rintro ⟨_ | ⟨_, before⟩, x, behind, has, hbefore, hx⟩
      · obtain ⟨rfl, -⟩ := List.cons.inj has
        exact Or.inl hx
      · obtain ⟨rfl, rfl⟩ := List.cons.inj has
        obtain ⟨⟨b, hb⟩, hbefore⟩ := List.forall_mem_cons.1 hbefore
        have hrest := ih.2 ⟨before, x, behind, rfl, hbefore, hx⟩
        exact Or.inr ⟨b, hb, bind_eq_error_iff.2 (Or.inl hrest)⟩

end

/-- Work that succeeds has succeeded at each step. -/
theorem exists_of_run_bind {ε σ α β : Type} {x : EStateM ε σ α} {f : α → EStateM ε σ β} {s s' : σ}
    {b : β} (h : (x >>= f).run s = .ok b s') :
    ∃ a between, x.run s = .ok a between ∧ (f a).run between = .ok b s' := by
  rw [EStateM.run_bind] at h
  cases hx : x.run s with
  | error e s₁ =>
    rw [hx] at h
    cases h
  | ok a s₁ =>
    rw [hx] at h
    exact ⟨a, s₁, rfl, h⟩

/-- A property that work has which does nothing, and work that is put together from work which has
it. -/
structure IsKept {ε σ : Type} (C : (α : Type) → EStateM ε σ α → Prop) : Prop where
  pure : ∀ {α : Type} (a : α), C α (pure a)
  bind : ∀ {α β : Type} {x : EStateM ε σ α} {f : α → EStateM ε σ β},
    C α x → (∀ a, C β (f a)) → C β (x >>= f)

/-! ## Failures of one sort -/

section

variable {ε σ α β : Type} {P Q : ε → Prop}

/-- Work that fails for reasons of one sort only. -/
def FailsBy (P : ε → Prop) (work : EStateM ε σ α) : Prop :=
  ∀ s e s', work.run s = .error e s' → P e

theorem failsBy_of_ok {work : EStateM ε σ α} (h : ∀ s, ∃ a s', work.run s = .ok a s') :
    FailsBy P work := by
  intro s e s' hrun
  obtain ⟨a, s'', hok⟩ := h s
  cases hok.symm.trans hrun

theorem failsBy_pure (a : α) : FailsBy P (pure a : EStateM ε σ α) :=
  failsBy_of_ok fun s => ⟨a, s, rfl⟩

theorem failsBy_modify (f : σ → σ) : FailsBy P (modify f : EStateM ε σ Unit) :=
  failsBy_of_ok fun s => ⟨(), f s, rfl⟩

theorem failsBy_get : FailsBy P (get : EStateM ε σ σ) := failsBy_of_ok fun s => ⟨s, s, rfl⟩

theorem failsBy_throw {e : ε} (h : P e) : FailsBy P (throw e : EStateM ε σ α) := by
  rintro s e' s' hrun
  cases hrun
  exact h

theorem FailsBy.mono {work : EStateM ε σ α} (h : FailsBy P work) (hPQ : ∀ e, P e → Q e) :
    FailsBy Q work := fun s e s' hrun => hPQ e (h s e s' hrun)

theorem FailsBy.bind {x : EStateM ε σ α} {f : α → EStateM ε σ β} (hx : FailsBy P x)
    (hf : ∀ a, FailsBy P (f a)) : FailsBy P (x >>= f) := by
  intro s e s' hrun
  rw [EStateM.run_bind] at hrun
  cases hfirst : x.run s with
  | error e₁ s₁ =>
    rw [hfirst] at hrun
    cases hrun
    exact hx s e s' hfirst
  | ok a s₁ =>
    rw [hfirst] at hrun
    exact hf a s₁ e s' hrun

theorem isKept_failsBy : IsKept fun α (work : EStateM ε σ α) => FailsBy P work :=
  ⟨failsBy_pure, FailsBy.bind⟩

end

namespace Logged

deriving instance DecidableEq for EStateM.Result

variable {ε σ α β : Type} {x : Logged ε α} {f : α → Logged ε β} {a : α} {log log' : Log}

/-- What is done after a success. -/
theorem run_bind_ok (h : x.run log = .ok a log') : (x >>= f).run log = (f a).run log' := by
  change EStateM.bind x f log = f a log'
  change x log = .ok a log' at h
  rw [EStateM.bind, h]

/-- A failure that is caught is followed by what is done about it. -/
theorem run_tryCatch (x : EStateM ε σ α) (handler : ε → EStateM ε σ α) (s : σ) :
    (tryCatch x handler).run s =
      match x.run s with
      | .ok a s' => .ok a s'
      | .error e s' => (handler e).run s' := by
  change EStateM.tryCatch x handler s = _
  unfold EStateM.tryCatch EStateM.run
  cases x s <;> rfl

/-- A success is not caught. -/
theorem run_tryCatch_ok {handler : ε → Logged ε α} (h : x.run log = .ok a log') :
    (tryCatch x handler).run log = .ok a log' := by
  rw [run_tryCatch, h]

theorem run_note (level : Level) (message : String) :
    (note (ε := ε) level message).run log = .ok () (log ++ [⟨level, message⟩]) := rfl

/-! ## Outcomes -/

/-- What work gives, or why it fails, when nothing was noted before. -/
def outcome (x : Logged ε α) : Except ε α :=
  match x.run [] with
  | .ok a _ => .ok a
  | .error e _ => .error e

/-- Work that does not look at the notes taken before it. -/
def IsSteady (x : Logged ε α) : Prop :=
  ∀ log, ∃ log', x.run log =
    match x.outcome with
    | .ok a => .ok a log'
    | .error e => .error e log'

theorem isSteady_pure (a : α) : IsSteady (pure a : Logged ε α) := fun log => ⟨log, rfl⟩

theorem isSteady_throw (e : ε) : IsSteady (throw e : Logged ε α) := fun log => ⟨log, rfl⟩

theorem isSteady_note (level : Level) (message : String) :
    IsSteady (note level message : Logged ε Unit) := fun _ => ⟨_, rfl⟩

theorem isSteady_ofExcept (r : Except ε α) : IsSteady (MonadExcept.ofExcept r : Logged ε α) := by
  cases r with
  | ok a => exact isSteady_pure a
  | error e => exact isSteady_throw e

theorem outcome_ofExcept (r : Except ε α) : (MonadExcept.ofExcept r : Logged ε α).outcome = r := by
  cases r <;> rfl

/-- Work done after other work takes up what that gave. -/
theorem outcome_bind (hf : ∀ a, IsSteady (f a)) :
    (x >>= f).outcome =
      match x.outcome with
      | .ok a => (f a).outcome
      | .error e => .error e := by
  unfold outcome
  rw [EStateM.run_bind]
  cases x.run [] with
  | error e log => rfl
  | ok a log =>
    obtain ⟨log', h⟩ := hf a log
    dsimp only
    rw [h]
    change _ = (f a).outcome
    cases (f a).outcome <;> rfl

theorem IsSteady.bind (hx : IsSteady x) (hf : ∀ a, IsSteady (f a)) : IsSteady (x >>= f) := by
  intro log
  obtain ⟨log₁, h₁⟩ := hx log
  rw [outcome_bind hf, EStateM.run_bind, h₁]
  cases x.outcome with
  | error e => exact ⟨log₁, rfl⟩
  | ok a => exact hf a log₁

end Logged

end SectionTimes
