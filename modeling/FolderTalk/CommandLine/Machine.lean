import FolderTalk.Config.Change
import FolderTalk.Session.Visit

/-!
# The machine

What the program works on: the disk with the home directory, the environment, the clock and the
choice of colours. The configuration file and the sessions are taken from the disk and put back on
it here.
-/

namespace FolderTalk.CommandLine

/-- Everything outside the program. -/
structure Machine where
  disk : Disk
  home : Path
  /-- The home directories of users, by their names. -/
  homes : String → Option Path := fun _ => none
  /-- The directory from which relative paths lead on. -/
  here : Path
  environment : Environment
  sources : Sources
  /-- The time of each save of the configuration, counted from one. -/
  stamp : Nat → String
  saves : Nat := 0
  /-- The time in the lines of the log. -/
  time : String

namespace Machine

/-! ## The configuration file -/

def configPath (m : Machine) : Path := m.home ++ [".chatorg", "config.yaml"]

/-- The configuration file as it is on the disk. -/
def configFile (m : Machine) : Except Fault ConfigFile :=
  match m.disk.holds m.configPath with
  | .error f => .error f
  | .ok false => .ok { text := none, stamp := m.stamp, saves := m.saves }
  | .ok true =>
    match m.disk.content m.configPath with
    | .error f => .error f
    | .ok (.text s) => .ok { text := some s, stamp := m.stamp, saves := m.saves }
    | .ok (.undecodable _) => .error .undecodable

/-- Brings the disk up to date with the configuration file. -/
def putConfigFile (m : Machine) (f : ConfigFile) : Machine × Option Fault :=
  if f.saves == m.saves then (m, none)
  else
    let m := { m with saves := f.saves }
    match m.disk.layDirectories m.configPath.dropLast with
    | (d, some fault) => ({ m with disk := d }, some fault)
    | (d, none) =>
      let written := match f.text with
        | some s => d.writeContent m.configPath (.text s)
        | none => .ok d
      match written with
      | .ok d => ({ m with disk := d }, none)
      | .error fault => ({ m with disk := d }, some fault)

/-- Makes a configuration file with the defaults if there is none. -/
def ensureConfigFile (m : Machine) : Machine × Except Fault ConfigFile :=
  match m.configFile with
  | .error f => (m, .error f)
  | .ok file =>
    let file := file.ensure
    match m.putConfigFile file with
    | (m, some f) => (m, .error f)
    | (m, none) => (m, .ok file)

/-- The configuration, with or without the environment. -/
def loadConfig (m : Machine) (useEnvironment : Bool) : Machine × Except Config.Failure Config :=
  match m.ensureConfigFile with
  | (m, .error f) => (m, .error (.fault f))
  | (m, .ok file) => (m, file.resolve (if useEnvironment then some m.environment else none) none)

/-- Changes the configuration file. -/
def changeConfigFile (m : Machine) (file : ConfigFile)
    (change : ConfigFile → ConfigFile × Option Config.Failure) :
    Machine × Except Config.Failure ConfigFile :=
  let (file, failure) := change file
  match m.putConfigFile file, failure with
  | (m, some f), _ => (m, .error (.fault f))
  | (m, none), some e => (m, .error e)
  | (m, none), none => (m, .ok file)

/-! ## Sessions -/

/-- The directory that a text names; a tilde stands for the home directory, and with a name after it
for the home directory of that user. -/
def directory (m : Machine) (text : String) : Except Fault Path :=
  match Path.split text with
  | first :: rest =>
    if text.startsWith "/" then .ok (first :: rest)
    else if first == "~" then .ok (m.home ++ rest)
    else if first.startsWith "~" then
      if first.toList.contains '\x00' then .error .nullInPath
      else match m.homes (String.ofList (first.toList.drop 1)) with
      | some home => .ok (home ++ rest)
      | none => .error .homeUnknown
    else .ok (m.here ++ first :: rest)
  | [] => .ok (if text.startsWith "/" then [] else m.here)

/-- The repository of the sessions; an empty text names the usual place. -/
def repository (m : Machine) (settings : SessionSettings) : Except Fault Repository :=
  let usual : SessionSettings := {}
  (m.directory (if settings.stateDir.isEmpty then usual.stateDir else settings.stateDir)).map
    Repository.mk

/-- The session that is named, or else the one of the configuration. -/
def sessionName (config : Config) : Option String → String
  | some name => if name.isEmpty then config.session.name else name
  | none => config.session.name

/-- Does some work in a session. -/
def inSession {α : Type} (m : Machine) (config : Config) (named : Option String)
    (work : Workbench → Workbench × α) : Machine × Except Fault α :=
  let session := sessionName config named
  match m.repository config.session with
  | .error f => (m, .error f)
  | .ok repository =>
    match Visit.enter repository m.disk config session m.sources with
    | (disk, .error f) => ({ m with disk := disk }, .error f)
    | (disk, .ok (visit, failed)) =>
      let (workbench, result) := match failed with
        | some f => (visit.workbench, Except.error f)
        | none => let (w, a) := work visit.workbench; (w, .ok a)
      let m := { m with disk := disk, sources := workbench.sources }
      match { visit with workbench := workbench }.finish disk m.time with
      | .ok disk => ({ m with disk := disk }, result)
      | .error f => (m, .error f)

end Machine

end FolderTalk.CommandLine
