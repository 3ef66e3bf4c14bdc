import UnitLoader.Settings.Document
import UnitLoader.Setup.Error
import UnitLoader.Tree.Ambient

/-!
# The file of settings

Settings are read from a file by its path. The file of a user is beneath the directory for
settings; where there is none yet, one with the usual settings is written first.

## Main definitions

* `UnitLoader.Settings.load`: the settings in a file.
* `UnitLoader.Settings.userFile`: the path of the file of a user.
* `UnitLoader.Settings.loadUser`: the settings of a user.
-/

namespace UnitLoader.Settings

/-- The settings in the file that a path leads to. -/
def load (a : Ambient) (path : String) : Except SetupError Settings := do
  let bytes ← (a.readFile path).mapError fun _ => .unreadable path
  let document ← (Text.Utf8.decode bytes).mapError fun _ => .unreadable path
  match ofDocument? document with
  | some s => s.check.mapError .settings
  | none => throw (.unparsable path)

/-! ## The file of a user -/

/-- The directory of the file of a user. -/
def userDirectory (settingsHome : String) : String :=
  Path.join settingsHome "capsule"

/-- The path of the file of a user, beneath the directory for settings. -/
def userFile (settingsHome : String) : String :=
  Path.join (userDirectory settingsHome) "config.toml"

/-- Write the usual settings to the file of a user. The directories that were made stay made, even
if the file cannot be written. -/
def writeUserFile (a : Ambient) (settingsHome : String) : Tree × Except SetupError Unit :=
  let directory := userDirectory settingsHome
  let path := userFile settingsHome
  match a.tree.makePath a.working directory with
  | (t, .error _) => (t, .error (.noDirectory directory))
  | (t, .ok _) =>
    match t.writeFile a.working path (.bytes (Text.Utf8.encode usualDocument.toList)) with
    | .ok t => (t, .ok ())
    | .error _ => (t, .error (.unwritable path))

/-- The settings of a user, and the tree with a file for them. -/
def loadUser (a : Ambient) (settingsHome : String) : Tree × Except SetupError Settings :=
  let path := userFile settingsHome
  if a.leadsAnywhere path then (a.tree, load a path)
  else
    match writeUserFile a settingsHome with
    | (t, .error e) => (t, .error e)
    | (t, .ok ()) => (t, load { a with tree := t } path)

end UnitLoader.Settings
