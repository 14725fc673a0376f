import SectionTimes.Device.Basic
import SectionTimes.Proofs.Log

/-!
# What a device is asked

Whatever comes of it, the bridge is given words once for each thing that it is to do, and they do
not depend on what it said before.
-/

namespace SectionTimes

namespace Device

open Text

variable (d : Device) (link : Link)

theorem calls_ask (words : List String) :
    (endOf ((ask words).run link)).calls = link.calls ++ [words] := by
  unfold ask EStateM.run
  dsimp only
  split
  · split <;> rfl
  · rfl

/-- The bridge is asked once, if all its words are texts. -/
theorem calls_run (arguments : List String) :
    (endOf ((d.run arguments).run link)).calls =
      link.calls ++ (texts? (d.words arguments)).toList := by
  unfold run
  cases htexts : texts? (d.words arguments) with
  | none => exact (List.append_nil _).symm
  | some words =>
    have hask := calls_ask
      { link with log := link.log ++ [⟨.debug, "Running: " ++ " ".intercalate words⟩] } words
    dsimp only
    rw [EStateM.run_bind]
    change (endOf (EStateM.run _ { link with log := _ })).calls = _
    rw [EStateM.run_bind]
    cases hreply : (ask words).run _ with
    | error e link' =>
      rw [hreply] at hask
      exact hask
    | ok reply link' =>
      rw [hreply] at hask
      cases reply with
      | exited code output errors written =>
        dsimp only
        split
        · exact hask
        · exact hask
      | timedOut => exact hask
      | notStarted cause => exact hask

theorem isSome_texts?_of_run_eq_ok {arguments : List String} {output : String} {link link' : Link}
    (h : (d.run arguments).run link = .ok output link') :
    (texts? (d.words arguments)).isSome = true := by
  unfold run at h
  cases htexts : texts? (d.words arguments) with
  | none =>
    rw [htexts] at h
    cases h
  | some words => rfl

/-- The words that the bridge is given to read a flag. -/
def flagWords? (name : String) : Option (List String) :=
  (splitFlagName? name).bind fun (package, flag) =>
    texts? (d.words
      ["shell", "device_config get " ++ shellQuote package ++ " " ++ shellQuote flag])

theorem run_flag (name : String) :
    (d.flag name).run link =
      match splitFlagName? name with
      | none => .error (.flagName name) link
      | some (package, flag) =>
        match (d.run ["shell",
          "device_config get " ++ shellQuote package ++ " " ++ shellQuote flag]).run link with
        | .ok answer link' => .ok (flagStateOf answer) link'
        | .error e link' => .error e link' := by
  unfold flag
  cases splitFlagName? name with
  | none => rfl
  | some parts =>
    dsimp only
    rw [EStateM.run_bind, shell]
    cases (d.run _).run link <;> rfl

/-- To read a flag the bridge is asked once, if it can be asked for it at all. -/
theorem calls_flag (name : String) :
    (endOf ((d.flag name).run link)).calls = link.calls ++ (d.flagWords? name).toList := by
  rw [run_flag]
  unfold flagWords?
  cases splitFlagName? name with
  | none => exact (List.append_nil _).symm
  | some parts =>
    dsimp only [Option.bind]
    rw [← calls_run]
    cases (d.run _).run link <;> rfl

theorem isSome_flagWords?_of_flag_eq_ok {name : String} {v : FlagState} {link' : Link}
    (h : (d.flag name).run link = .ok v link') : (d.flagWords? name).isSome = true := by
  rw [run_flag] at h
  unfold flagWords?
  cases hparts : splitFlagName? name with
  | none =>
    rw [hparts] at h
    cases h
  | some parts =>
    rw [hparts] at h
    dsimp only [Option.bind] at h ⊢
    cases hrun : (d.run _).run link with
    | error e link₁ =>
      rw [hrun] at h
      cases h
    | ok output link₁ => exact d.isSome_texts?_of_run_eq_ok hrun

end Device

end SectionTimes
