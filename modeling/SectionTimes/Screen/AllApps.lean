import SectionTimes.Device.Basic
import SectionTimes.Screen.ResumedActivity

/-!
# The screen of all apps

The settings of a device have a screen that lists all apps.  It can be opened and left, and it
can be made sure that it is what the user sees.
-/

namespace SectionTimes.Screen

/-- Why it is not so that the screen is open. -/
inductive Mismatch where
  | nothing
  | other (component : String)
  deriving DecidableEq, Repr

/-- The wording of a mismatch. -/
def Mismatch.message : Mismatch → String
  | .nothing => "No resumed activity found"
  | .other component => "Settings all apps page is not open (resumed: " ++ component ++ ")"

/-- The package of the settings. -/
def settingsPackage : String := "com.android.settings"

/-- The part of the name of every activity that shows the screen. -/
def allAppsMark : String := "ManageApplications"

/-- The package of a component. -/
def packageOf (component : String) : String :=
  String.ofList (component.toList.takeWhile (· ≠ '/'))

/-- Whether a component shows the screen. -/
def showsAllApps (component : String) : Bool :=
  packageOf component = settingsPackage && Text.mentions component allAppsMark

/-- Whether a dump says that the screen is open, and if not, why. -/
def checkDump (dump : String) : Option Mismatch :=
  match resumedComponent? dump with
  | none => some .nothing
  | some component => if showsAllApps component then none else some (.other component)

/-- Opens the screen. -/
def openAllApps (d : Device) : Device.Talk Unit := do
  Device.note .info "Opening Settings all apps page"
  let _ ← d.shell "am start -W -a android.settings.MANAGE_ALL_APPLICATIONS_SETTINGS"

/-- Leaves the screen by the back key. -/
def leave (d : Device) : Device.Talk Unit := do
  let _ ← d.shell "input keyevent 4"

/-- Asks the device whether the screen is open. -/
def checkAllApps (d : Device) : Device.Talk (Option Mismatch) := do
  return checkDump (← d.shell "dumpsys activity activities")

end SectionTimes.Screen
