import FolderTalk.Storage.Disk

/-!
# The repository of sessions

Each session has a directory below a base directory and, in it, one JSON document for each key and
a log file. Saving makes the directory when it is missing.
-/

namespace FolderTalk

def Repository.logName : String := "chatorg.log"

def Repository.extension : String := ".json"

/-- The base directory of the sessions. -/
structure Repository where
  base : Path

/-- Why the value of a key cannot be loaded. -/
inductive LoadError where
  /-- Nothing is stored under the key. -/
  | missing (key : String) (path : Path)
  /-- What is stored is not JSON data. -/
  | invalid (key : String)
  | fault (f : Fault)
  deriving Repr

def LoadError.message : LoadError → String
  | missing key path => "No value stored for '" ++ key ++ "' at " ++ path.text
  | invalid key => "Invalid data stored for '" ++ key ++ "'"
  | fault f => f.message

namespace Repository

def sessionPath (r : Repository) (session : String) : Path := Path.extend r.base session

def keyPath (r : Repository) (session key : String) : Path :=
  Path.extend (r.sessionPath session) (key ++ extension)

/-- Makes the directory of a session and its log file, as far as they are missing. -/
def makeReady (r : Repository) (d : Disk) (session : String) : Disk × Option Fault :=
  let dir := r.sessionPath session
  match d.layDirectories dir with
  | (d, some f) => (d, some f)
  | (d, none) =>
    match d.touch (dir ++ [logName]) with
    | .ok d => (d, none)
    | .error f => (d, some f)

/-- The disk with the directory of a session and its log file, if they can be made. -/
def prepare (r : Repository) (d : Disk) (session : String) : Except Fault Disk :=
  match r.makeReady d session with
  | (d, none) => .ok d
  | (_, some f) => .error f

def load (r : Repository) (d : Disk) (session key : String) : Except LoadError Value :=
  let path := r.keyPath session key
  match d.holds path with
  | .error f => .error (.fault f)
  | .ok false => .error (.missing key path)
  | .ok true =>
    match d.content path with
    | .error f => .error (.fault f)
    | .ok doc =>
      match doc.value with
      | .ok v => .ok v
      | .error .invalid => .error (.invalid key)
      | .error (.fault f) => .error (.fault f)

/-- Stores a value under a key. The directory is made even when the value cannot be written. -/
def save (r : Repository) (d : Disk) (session key : String) (v : Value) : Disk × Option Fault :=
  match r.makeReady d session with
  | (d, some f) => (d, some f)
  | (d, none) =>
    match Document.ofValue v with
    | .error f => (d, some f)
    | .ok doc =>
      match d.writeContent (r.keyPath session key) doc with
      | .ok d => (d, none)
      | .error f => (d, some f)

/-- Removes the values of the keys; keys without a value are passed over. -/
def clear (r : Repository) (session : String) : Disk → List String → Disk × Option Fault
  | d, [] => (d, none)
  | d, key :: keys =>
    let path := r.keyPath session key
    match d.holds path with
    | .error f => (d, some f)
    | .ok false => clear r session d keys
    | .ok true =>
      match d.discard path with
      | .ok d => clear r session d keys
      | .error f => (d, some f)

/-- The name without its last extension; a leading or closing dot begins none. -/
def stem (name : String) : String :=
  let backwards := name.toList.reverse
  let suffix := backwards.takeWhile (· != '.')
  let rest := backwards.drop (suffix.length + 1)
  if suffix.isEmpty || rest.isEmpty || suffix.length == backwards.length then name
  else String.ofList rest.reverse

/-- The keys that have a document in the directory of a session, in ascending order. -/
def keys (r : Repository) (d : Disk) (session : String) : List String :=
  let found := (d.names (r.sessionPath session)).filter fun name => name.endsWith extension
  (found.map stem).mergeSort fun a b => a ≤ b

/-- The keys of a session, none if it has no directory. -/
def listed (r : Repository) (d : Disk) (session : String) : Except Fault (List String) :=
  match d.holds (r.sessionPath session) with
  | .error f => .error f
  | .ok false => .ok []
  | .ok true => .ok (r.keys d session)

end Repository

end FolderTalk
