import SectionTimes.Device.Basic
import SectionTimes.Flag.Requirement

/-!
# The gate before a test

A test runs if no flag that must be off is on, and every flag that must be on is on; an unset
flag is not on.  Flags that must be on are looked up only if the test has not failed at those
that must be off.  The flags can be looked up on a device, each being read once.
-/

namespace SectionTimes.Flag

/-- Why a test does not run. -/
inductive Reason where
  /-- Flags that must be off are on. -/
  | areOn (flags : List String)
  /-- Flags that must be on are not. -/
  | areOff (flags : List String)
  deriving DecidableEq, Repr

/-- The wording of a reason. -/
def Reason.message : Reason → String
  | .areOn flags => "assumption failed: flag(s) required off are on: " ++ ", ".intercalate flags
  | .areOff flags => "assumption failed: flag(s) required on are off: " ++ ", ".intercalate flags

/-- Of some flags those that are on, or those that are not, looked up one after the other. -/
def select {m : Type → Type} [Monad m] (isOn : String → m Bool) (wanted : Bool) :
    List String → m (List String)
  | [] => pure []
  | flag :: flags => do
    let on ← isOn flag
    let rest ← select isOn wanted flags
    return if on == wanted then flag :: rest else rest

/-- Why a test does not run, if it does not. -/
def reason? {m : Type → Type} [Monad m] (isOn : String → m Bool) (r : Required) :
    m (Option Reason) := do
  let areOn ← select isOn true r.off
  if areOn.isEmpty then
    let areOff ← select isOn false r.on
    return if areOff.isEmpty then none else some (.areOff areOff)
  else return some (.areOn areOn)

/-- Whether a value counts as on: only the truth value does. -/
def isOnValue : Value → Bool
  | .bool b => b
  | _ => false

/-- Looks a flag up in a table and takes down that it was. -/
def recordLookup (values : Table String Value) (flag : String) : StateM (List String) Bool := do
  modify (· ++ [flag])
  return ((values.find? flag).map isOnValue).getD false

/-- What gives flags their values. -/
inductive Assignment where
  /-- A table; a flag that is not in it has no value. -/
  | table (values : Table String Value)
  /-- A rule, by which every flag has a value. -/
  | rule (valueOf : String → Value)

/-- Looks a flag up and takes down that it was. -/
def Assignment.record : Assignment → String → StateM (List String) Bool
  | .table values, flag => recordLookup values flag
  | .rule valueOf, flag => do
    modify (· ++ [flag])
    return isOnValue (valueOf flag)

/-- Why a test does not run by an assignment, if it does not, and the flags that were looked up for
that, in their order. -/
def check (h : Hierarchy) (test : Subject) (owner : Option Subject) (a : Assignment) :
    Option Reason × List String :=
  reason? a.record (required h test owner) []

/-- A checker of flags on a device: the flags read until now, and the link to the device. -/
structure Checker where
  /-- The flags that were read, and what the device said. -/
  cache : Table String FlagState
  link : Device.Link

/-- Work of a checker. -/
abbrev Checking := EStateM Device.Failure Checker

namespace Checker

/-- Does work with the device. -/
def talk {α : Type} (work : Device.Talk α) : Checking α := fun s =>
  match work s.link with
  | .ok x link => .ok x { s with link }
  | .error e link => .error e { s with link }

/-- The word for a flag state in notes. -/
def stateText : FlagState → String
  | .on => "True"
  | .off => "False"
  | .unset => "None"

/-- A flag, read from the device the first time. -/
def get (d : Device) (flag : String) : Checking FlagState := do
  match (← EStateM.get).cache.find? flag with
  | some state => return state
  | none =>
    let state ← talk (d.flag flag)
    modify fun s => { s with cache := s.cache.put flag state }
    talk (Device.note .debug ("Flag " ++ flag ++ " = " ++ stateText state))
    return state

/-- Why a test does not run on a device, if it does not. -/
def skipReason (d : Device) (r : Required) : Checking (Option Reason) :=
  reason? (fun flag => do return (← get d flag) == .on) r

end Checker

end SectionTimes.Flag
