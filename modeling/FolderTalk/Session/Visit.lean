import FolderTalk.Session.Submit
import FolderTalk.Storage.Repository

/-!
# A visit to a session

A command of the program visits one session: its directory is made ready, its documents are taken
from the disk, the session is loaded and worked on, and afterwards the documents and the lines of
the log go back to the disk, even when the work has ended early.

* `Visit.enter` is everything up to the loaded session.
* `Visit.finish` is what stays on the disk.
-/

namespace FolderTalk

/-- The importance from which on events are written to the log, by the name of a level. -/
def LogLevel.threshold? (name : String) : Option Nat :=
  [("CRITICAL", 50), ("FATAL", 50), ("ERROR", 40), ("WARN", 30), ("WARNING", 30), ("INFO", 20),
   ("DEBUG", 10), ("NOTSET", 30)].lookup name

namespace Repository

/-- The documents of a session. -/
def drawer (r : Repository) (d : Disk) (session : String) : Drawer :=
  ⟨StateKey.all.filterMap fun key =>
    match d.content (r.keyPath session key.name) with
    | .ok doc => some (key.name, doc)
    | .error _ => none⟩

/-- Brings the document of one key on the disk up to date. -/
def putBack (r : Repository) (session : String) (before after : Drawer) (d : Disk)
    (key : StateKey) : Except Fault Disk :=
  let path := r.keyPath session key.name
  match after.get? key.name with
  | some doc => if before.get? key.name == some doc then .ok d else d.writeContent path doc
  | none => if (before.get? key.name).isSome then d.discard path else .ok d

/-- Adds lines to the log of a session. -/
def appendLog (r : Repository) (d : Disk) (session : String) (lines : List String) :
    Except Fault Disk :=
  let path := r.sessionPath session ++ [logName]
  match d.content path with
  | .error f => .error f
  | .ok log =>
    if lines.isEmpty then .ok d
    else d.writeContent path (log.append (String.join (lines.map (· ++ "\n"))))

end Repository

/-- A session that is being visited. -/
structure Visit where
  repository : Repository
  /-- The importance from which on events are logged. -/
  threshold : Nat
  /-- The documents as they were at the beginning. -/
  before : Drawer
  workbench : Workbench

namespace Visit

/-- Makes the directory and the log of a session ready, and gives the importance from which on
events are logged. -/
def prepare (r : Repository) (d : Disk) (settings : LoggingSettings) (session : String) :
    Disk × Except Fault Nat :=
  let level := Text.toUpper settings.level
  match LogLevel.threshold? level with
  | none => (d, .error (.unknownLevel level))
  | some threshold =>
    match r.makeReady d session with
    | (d, some f) => (d, .error f)
    | (d, none) => (d, (r.appendLog d session []).map fun _ => threshold)

/-- Opens a session and loads it; a load that fails is still a visit. -/
def enter (r : Repository) (d : Disk) (config : Config) (session : String) (sources : Sources) :
    Disk × Except Fault (Visit × Option Fault) :=
  match prepare r d config.logging session with
  | (d, .error f) => (d, .error f)
  | (d, .ok threshold) =>
    match Session.start config.engine session with
    | .error f => (d, .error f)
    | .ok fresh =>
      let drawer := r.drawer d session
      let (w, failed) := Workbench.load { session := fresh, drawer := drawer, sources := sources }
      (d, .ok (⟨r, threshold, drawer, w⟩, failed))

/-- The lines that go to the log, each after the given time. -/
def logLines (v : Visit) (time : String) : List String :=
  (v.workbench.log.filter fun e => v.threshold ≤ e.level.rank).map fun e =>
    "[" ++ time ++ "] " ++ e.line

/-- Writes the changed documents and the log. -/
def finish (v : Visit) (d : Disk) (time : String) : Except Fault Disk := do
  let session := v.workbench.session.name
  let d ← StateKey.all.foldlM (v.repository.putBack session v.before v.workbench.drawer) d
  v.repository.appendLog d session (v.logLines time)

end Visit

end FolderTalk
