import UnitLoader.Fault.Load
import UnitLoader.Settings.Basic

/-!
# Setup errors

Whatever keeps a process from being set up: settings that cannot be had or are wrong, units that
cannot be imported in advance, roots that cannot be opened, a mode that is refused.

An error of the system, of the reader of documents or of a mode, which is the reason behind some of
these errors, is left out: only the text that is put in front of it is told.

## Main definitions

* `UnitLoader.SetupError`: the errors.
* `UnitLoader.SetupError.message`: how an error reads.
* `UnitLoader.SetupError.cause?`: the load error behind an error.
-/

namespace UnitLoader

/-- What keeps a process from being set up. -/
inductive SetupError where
  /-- The file of settings cannot be read. -/
  | unreadable (path : String)
  /-- The file of settings tells none. -/
  | unparsable (path : String)
  /-- The directory of the file of settings cannot be made. -/
  | noDirectory (path : String)
  /-- The file of settings cannot be written. -/
  | unwritable (path : String)
  | settings (fault : SettingsFault)
  | preload (unit : String) (cause : LoadError)
  | root (path : String) (cause : LoadError)
  | mode (name : String)
  | logFilter (text : String)
  | alreadyLogging
  deriving DecidableEq, Repr

namespace SetupError

/-- How an error reads. -/
def message : SetupError → String
  | .unreadable path => s!"Failed to read config file: {path}"
  | .unparsable path => s!"Failed to parse config file: {path}"
  | .noDirectory path => s!"Failed to create config directory: {path}"
  | .unwritable path => s!"Failed to write default config file: {path}"
  | .settings fault => fault.message
  | .preload unit _ => "Failed to preload unit '" ++ unit ++ "'"
  | .root path _ => s!"Failed to open unit root: {path}"
  | .mode name => s!"Failed to enter restricted mode ({name})"
  | .logFilter text => s!"Invalid log level: {text}"
  | .alreadyLogging =>
    "Failed to initialize logging: a global default trace dispatcher has already been set"

/-- The load error behind an error. -/
def cause? : SetupError → Option LoadError
  | .preload _ cause | .root _ cause => some cause
  | _ => none

end SetupError

end UnitLoader
