/-
Module: MonitorSplit.Settings.Profiles
Purpose: Named ratios and single settings kept in a settings file.
Main exports:
  StoreFailure, contentsOf, profileNames, profiles, profile?, saveProfile, deleteProfile,
  setting?, setSetting, defaultMonitor
-/
import MonitorSplit.Ratio.Written
import MonitorSplit.Settings.Reader
import MonitorSplit.Settings.Writer

namespace MonitorSplit.Settings

/-!
A store is the text of a settings file, or nothing while there is no such file.  Every
operation reads it anew; those that change something give the new text.  A profile is a
ratio as it was written down, kept under a name; it is checked before it is kept.  Names, keys
and values are texts of whole characters, as the file is: half of a surrogate pair, which the
system hands over in place of a byte that is no text, has no place there.
-/

/-- The text of the settings file, if there is one. -/
abbrev Store := Option String

/-- The section of single settings. -/
def settingsSection : String := "xrpex"

/-- The section of profiles. -/
def profilesSection : String := "profiles"

/-- The key of the monitor to split when no other is named. -/
def monitorKey : String := "monitor"

/-- What a store holds. -/
def contentsOf (store : Store) : Except ReadFailure (Contents String) :=
  match store with
  | none => .ok {}
  | some text => read text

/-- The names of all profiles in ascending order. -/
def profileNames (store : Store) : Except ReadFailure (List String) :=
  (contentsOf store).map (·.keys profilesSection)

/-- The ratio of a profile. -/
def profile? (store : Store) (name : String) : Except ReadFailure (Option String) :=
  (contentsOf store).map (·.lookup profilesSection name)

/-- All profiles with their ratios, in ascending order of their names. -/
def profiles (store : Store) : Except ReadFailure (List (String × String)) :=
  (contentsOf store).map fun contents =>
    (contents.keys profilesSection).filterMap fun name =>
      (contents.lookup profilesSection name).map (name, ·)

/-- The value of a setting. -/
def setting? (store : Store) (key : String) : Except ReadFailure (Option String) :=
  (contentsOf store).map (·.lookup settingsSection key)

/-- Give a setting a value. -/
def setSetting (store : Store) (key value : String) : Except ReadFailure String :=
  (contentsOf store).map fun contents => render (contents.set settingsSection key value)

/-- Why a profile cannot be kept. -/
inductive StoreFailure where
  | text (cause : TextFailure)
  | read (cause : ReadFailure)
deriving DecidableEq, Repr, Inhabited

/-- Keep an expression as a profile, if it is a ratio of so many axes. -/
def saveProfile (store : Store) (name expression : String) (dimensions : Int) :
    Except StoreFailure String :=
  match Ratio.parse dimensions expression.toList with
  | .error cause => .error (.text cause)
  | .ok _ =>
      match contentsOf store with
      | .error cause => .error (.read cause)
      | .ok contents => .ok (render (contents.set profilesSection name expression))

/-- Forget a profile.  Without a profile of that name there is no new text. -/
def deleteProfile (store : Store) (name : String) : Except ReadFailure (Option String) :=
  (contentsOf store).map fun contents => (contents.remove? profilesSection name).map render

/-- The monitor to split when no other is named: that of the environment, unless it is
empty, or that of the settings. -/
def defaultMonitor (store : Store) (environment : Option String) :
    Except ReadFailure (Option String) :=
  match environment.filter (· ≠ "") with
  | some name => .ok (some name)
  | none => setting? store monitorKey

end MonitorSplit.Settings
