import FolderTalk.Calendar
import FolderTalk.CommandLine.Run
import Std.Time.DateTime.Timestamp

/-!
# The program

The command line over the real world. The files below the directories that matter are taken into a
`Disk`, the program is run on it, and what it changed is written back. The edited text of the
configuration is read from the standard input; an empty input closes the editor without saving.
-/

namespace FolderTalk.Program

open CommandLine

/-- The text of a place on the disk. -/
def placeText (p : Path) : String := p.text

/-- The names in a directory; `none` if there is no directory at the place. -/
def namesAt (p : Path) : IO (Option (List String)) := do
  try
    let entries ← ((← IO.currentDir) / placeText p).readDir
    return some (entries.toList.map (·.fileName))
  catch _ => return none

/-- Everything at a place and below it. -/
partial def takeIn (p : Path) (d : Disk) : IO Disk := do
  match ← namesAt p with
  | some names =>
    let d := if p.isEmpty then d else { d with directories := d.directories ++ [p] }
    names.foldlM (fun d name => takeIn (p ++ [name]) d) d
  | none =>
    try
      let bytes ← IO.FS.readBinFile (placeText p)
      return { d with files := d.files ++ [(p, Document.ofBytes bytes)] }
    catch _ => return d

/-- The place that a path leads to when every name on the way is a directory. -/
def placeOf (p : Path) : Path :=
  p.foldl (fun at_ name => if name == ".." then at_.dropLast else at_ ++ [name]) []

/-- The directories on the way to a place, and the place. -/
def directoriesTo (p : Path) : List Path :=
  (List.range p.length).map fun n => placeOf (p.take (n + 1))

/-- Adds directories that are there but have not been taken in. -/
def withDirectories (d : Disk) (ps : List Path) : IO Disk :=
  ps.foldlM (fun d p => do
    if d.isDirectory p then return d
    return if (← namesAt p).isSome then { d with directories := d.directories ++ [p] } else d) d

def bytesOf : Document → ByteArray
  | .text s => s.toUTF8
  | .undecodable bytes => ⟨bytes.toArray⟩

/-- Writes back what has changed. -/
def putBack (before after : Disk) : IO Unit := do
  for p in after.directories do
    unless before.directories.contains p do IO.FS.createDirAll (placeText p)
  for (p, doc) in after.files do
    unless before.file? p == some doc do IO.FS.writeBinFile (placeText p) (bytesOf doc)
  for (p, _) in before.files do
    unless (after.file? p).isSome do IO.FS.removeFile (placeText p)

/-- The variables of the environment. -/
def environment : IO Environment := do
  let bytes ← try IO.FS.readBinFile "/proc/self/environ" catch _ => pure ByteArray.empty
  let entries := ((String.fromUTF8? bytes).getD "").splitOn "\x00"
  return entries.filterMap fun entry =>
    match entry.splitOn "=" with
    | name :: value@(_ :: _) => some (name, "=".intercalate value)
    | _ => none

/-- The home directories of the users, by their names. -/
def homes : IO (String → Option Path) := do
  let text ← try IO.FS.readFile "/etc/passwd" catch _ => pure ""
  let entries := (text.splitOn "\n").filterMap fun line =>
    match line.splitOn ":" with
    | [name, _, _, _, _, home, _] => some (name, Path.split home)
    | _ => none
  return fun name => entries.lookup name

/-- A number that looks random, for each place of a sequence. -/
def scatter (seed n : Nat) : Nat := (seed + (n + 1) * 2654435761) * 40503 / 65536

/-- The machine that the program runs on, with an empty disk. -/
def emptyMachine : IO Machine := do
  let home := Path.split ((← IO.getEnv "HOME").getD "/")
  let here := Path.split (← IO.currentDir).toString
  let now := (← Std.Time.Timestamp.now).toMillisecondsSinceUnixEpoch.toInt
  let seed ← IO.rand 0 (Nat.pow 2 31)
  let moment := Moment.ofMilliseconds now.toNat
  let sources : Sources :=
    { clock := fun _ => some now
      colorFrom := fun n palette => palette[scatter seed n % palette.length]? }
  return { disk := {}, home, homes := ← homes, here, environment := ← environment, sources
           stamp := fun _ => moment.stamp, time := moment.logTime }

/-- The directory of the session that the arguments are for, if the configuration can be used. -/
def sessionDirectory (m : Machine) (args : List String) : Option Path := do
  let invocation ← (Invocation.read args).toOption
  let config ← (m.loadConfig true).2.toOption
  let repository ← (m.repository config.session).toOption
  return repository.sessionPath (Machine.sessionName config invocation.session)

/-- The machine that the program runs on, with the files that the arguments are about. -/
def machine (args : List String) : IO Machine := do
  let m ← emptyMachine
  let disk ← withDirectories {} (directoriesTo m.home ++ directoriesTo m.here)
  let file := m.configPath
  let disk ← withDirectories disk (directoriesTo file.dropLast)
  let m := { m with disk := ← takeIn file disk }
  match sessionDirectory m args with
  | none => return m
  | some directory =>
    let disk ← withDirectories m.disk (directoriesTo directory.dropLast)
    let place := placeOf directory
    if disk.isDirectory place then return { m with disk := disk }
    return { m with disk := ← takeIn place disk }

/-- What comes in on the standard input, for the requests that read it. -/
def input (args : List String) : IO Input := do
  match Invocation.read args with
  | .ok ⟨_, .shell _⟩ | .ok ⟨_, .configEdit⟩ =>
    let text ← (← IO.getStdin).readToEnd
    return { text := text, edit := fun _ => if text.isEmpty then none else some text }
  | _ => return {}

end FolderTalk.Program

open FolderTalk FolderTalk.CommandLine FolderTalk.Program in
/-- Runs the program and reports its status. -/
def main (args : List String) : IO UInt32 := do
  let before ← machine args
  let (after, answer) := run before args (← input args)
  putBack before.disk after.disk
  for pause in answer.pauses do IO.sleep pause.thousandths.toUInt32
  IO.print answer.output
  IO.eprint answer.errors
  match answer.ending with
  | .fault f => IO.eprintln (f.kind ++ ": " ++ f.message)
  | _ => pure ()
  return answer.ending.status.toUInt32
