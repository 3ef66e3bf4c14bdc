import UnitLoader.Builtin
import UnitLoader.Cache.Header
import UnitLoader.Cache.Stream
import UnitLoader.Fault.ErrnoTable
import UnitLoader.Fault.Io
import UnitLoader.Fault.Load
import UnitLoader.Gate
import UnitLoader.Handle
import UnitLoader.Json.Numeral
import UnitLoader.Json.Reader
import UnitLoader.Json.Token
import UnitLoader.Json.Value
import UnitLoader.Loader.Artifact
import UnitLoader.Loader.Basic
import UnitLoader.Loader.Event
import UnitLoader.Loader.Import
import UnitLoader.Loader.Load
import UnitLoader.Loader.Run
import UnitLoader.Lookup.Finder
import UnitLoader.Lookup.Resolution
import UnitLoader.Lookup.RootFinder
import UnitLoader.Native.HostCall
import UnitLoader.Native.Scope
import UnitLoader.Number.Binary64
import UnitLoader.Number.Numeral
import UnitLoader.Number.Shortest
import UnitLoader.Path
import UnitLoader.Pattern.Basic
import UnitLoader.Pattern.CharClass
import UnitLoader.Pattern.Mode
import UnitLoader.Program.Body
import UnitLoader.Program.Mention
import UnitLoader.Program.Parser
import UnitLoader.Program.Statement
import UnitLoader.Program.UnitName
import UnitLoader.Rights
import UnitLoader.Settings.Basic
import UnitLoader.Settings.Document
import UnitLoader.Setup.Error
import UnitLoader.Setup.Install
import UnitLoader.Setup.LogFilter
import UnitLoader.Setup.Restrict
import UnitLoader.Setup.SettingsFile
import UnitLoader.Suffix
import UnitLoader.Table
import UnitLoader.Text.Character
import UnitLoader.Text.HiddenTable
import UnitLoader.Text.LetterTable
import UnitLoader.Text.Pieces
import UnitLoader.Text.Quoted
import UnitLoader.Text.Utf8
import UnitLoader.Toml.Document
import UnitLoader.Toml.Plain
import UnitLoader.Toml.Text
import UnitLoader.Toml.Value
import UnitLoader.Tree.Ambient
import UnitLoader.Tree.Basic
import UnitLoader.Tree.Edit
import UnitLoader.Unit.Basic
import UnitLoader.Unit.Registry
import UnitLoader.Proofs.UnitName
import UnitLoader.Proofs.Path
import UnitLoader.Proofs.Mention
import UnitLoader.Proofs.Tree
import UnitLoader.Proofs.Handle
import UnitLoader.Proofs.Handle.Rights
import UnitLoader.Proofs.Handle.Closed
import UnitLoader.Proofs.Resemblance
import UnitLoader.Proofs.Agreement
import UnitLoader.Proofs.Lookup
import UnitLoader.Proofs.Place
import UnitLoader.Proofs.Loader.Exec
import UnitLoader.Proofs.Loader.Moment
import UnitLoader.Proofs.Loader.Registered
import UnitLoader.Proofs.Loader.Running
import UnitLoader.Proofs.Loader.Follows
import UnitLoader.Proofs.Loader.Libraries
import UnitLoader.Proofs.Loader.Programs
import UnitLoader.Proofs.Loader.Artifacts
import UnitLoader.Proofs.Loader.Imports
import UnitLoader.Proofs.Loader.Universe
import UnitLoader.Proofs.Loader.Nesting
import UnitLoader.Proofs.Loader.Failure
import UnitLoader.Proofs.Loader.Surroundings
import UnitLoader.Proofs.Loader.Binding
import UnitLoader.Proofs.Loader.Once
import UnitLoader.Proofs.Loader.Isolation
import UnitLoader.Proofs.Loader.Placement
import UnitLoader.Proofs.Text.Utf8
import UnitLoader.Proofs.Number.Bound
import UnitLoader.Proofs.Json.Numeral
import UnitLoader.Proofs.Json.Token
import UnitLoader.Proofs.Json.Reader
import UnitLoader.Proofs.Json.Written
import UnitLoader.Proofs.Program.Body
import UnitLoader.Proofs.Program.Cache
import UnitLoader.Proofs.Tree.Gain
import UnitLoader.Proofs.Loader.Simulation
import UnitLoader.Proofs.Suffix
import UnitLoader.Proofs.Warm
import UnitLoader.Proofs.Loader.Warming
import UnitLoader.Proofs.Chain
import UnitLoader.Proofs.Tree.Shape
import UnitLoader.Proofs.Setup.Install
import UnitLoader.Proofs.Loader.Unread
import UnitLoader.Proofs.Loader.Choice
import UnitLoader.Proofs.Setup.Restrict
import UnitLoader.Proofs.Setup.Roots
import UnitLoader.Proofs.Program.Names
import UnitLoader.Proofs.Loader.Asked
import UnitLoader.Proofs.Path.NormalForm
import UnitLoader.Proofs.Handle.Relative
import UnitLoader.Proofs.Tree.Descent
import UnitLoader.Proofs.Handle.Descent
import UnitLoader.Proofs.Lookup.Precedence
import UnitLoader.Proofs.Lookup.Locations
import UnitLoader.Proofs.Cache.Delivery
import UnitLoader.Proofs.Native.Calls
import UnitLoader.Proofs.Loader.Reasons
import UnitLoader.Proofs.Loader.Entry
import UnitLoader.Proofs.Lookup.Presence
import UnitLoader.Proofs.Loader.Selective
import UnitLoader.Proofs.Handle.Entries
import UnitLoader.Proofs.Lookup.Absence
import UnitLoader.Proofs.Text.Trim
import UnitLoader.Proofs.Program.Lines
import UnitLoader.Proofs.Program.Literals
import UnitLoader.Proofs.Lookup.Siblings
import UnitLoader.Proofs.Loader.Sparing
import UnitLoader.Proofs.Loader.Trust
import UnitLoader.Proofs.Loader.Builtins
import UnitLoader.Proofs.Setup.Preload
import UnitLoader.Proofs.Unit.Metadata
import UnitLoader.Proofs.Native.Scopes
import UnitLoader.Proofs.Settings.Check
import UnitLoader.Proofs.Toml.Written
import UnitLoader.Proofs.Toml.Document
import UnitLoader.Proofs.Settings.Omission
import UnitLoader.Proofs.Suffix.RoundTrip
