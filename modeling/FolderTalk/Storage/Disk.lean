import FolderTalk.Storage.Document

/-!
# The disk

A tree of directories and files, each at the list of names that leads to it from the root. Paths
are followed name by name: two dots lead to the directory above, every name on the way has to be a
directory, and a name has at most 255 bytes.
-/

namespace FolderTalk

/-- The names on the way from the root. -/
abbrev Path := List String

namespace Path

/-- The names of a path text; empty names and single dots lead nowhere. -/
def split (s : String) : List String :=
  ((s.toList.splitOn '/').map String.ofList).filter fun name => name != "" && name != "."

/-- The path that a text leads to from a directory; a text that begins with a slash starts at the
root. -/
def extend (from_ : Path) (s : String) : Path :=
  if s.startsWith "/" then split s else from_ ++ split s

def text (p : Path) : String := "/" ++ "/".intercalate p

end Path

/-- All directories but the root, and all files. -/
structure Disk where
  directories : List Path := []
  files : List (Path × Document) := []
  deriving Inhabited

namespace Disk

def isDirectory (d : Disk) (at_ : Path) : Bool := at_.isEmpty || d.directories.contains at_

def file? (d : Disk) (at_ : Path) : Option Document := d.files.lookup at_

/-- Steps into a directory that has to exist. -/
def enter (d : Disk) (at_ : Path) (name : String) : Except DiskError Path :=
  if name.utf8ByteSize > 255 then .error .nameTooLong
  else if name == ".." then .ok at_.dropLast
  else if d.directories.contains (at_ ++ [name]) then .ok (at_ ++ [name])
  else if (d.file? (at_ ++ [name])).isSome then .error .notDirectory
  else .error .missing

/-- The place that a path leads to: every name but the last is entered. -/
def resolve (d : Disk) (path : Path) : Except DiskError Path :=
  match path.reverse with
  | [] => .ok []
  | last :: before => do
    let at_ ← before.reverse.foldlM d.enter []
    if last.utf8ByteSize > 255 then .error .nameTooLong
    else if last == ".." then .ok at_.dropLast
    else .ok (at_ ++ [last])

/-- Runs an operation on the place that a path leads to; errors name the path. -/
def at_ {α : Type} (d : Disk) (path : Path) (run : Path → Except DiskError α) : Except Fault α :=
  if path.any fun name => name.toList.contains '\x00' then .error .nullInPath
  else
    match d.resolve path >>= run with
    | .ok a => .ok a
    | .error e => .error (.disk e path.text)

/-- Whether there is anything at a path. -/
def holds (d : Disk) (path : Path) : Except Fault Bool :=
  match d.at_ path fun p => .ok (d.isDirectory p || (d.file? p).isSome) with
  | .ok b => .ok b
  | .error (.disk .nameTooLong p) => .error (.disk .nameTooLong p)
  | .error _ => .ok false

/-- Whether there is a directory at a path. -/
def holdsDirectory (d : Disk) (path : Path) : Bool :=
  match d.at_ path fun p => .ok (d.isDirectory p) with
  | .ok b => b
  | .error _ => false

/-- Replaces or adds a file. -/
def putFile (d : Disk) (p : Path) (doc : Document) : Disk :=
  if (d.file? p).isSome then
    { d with files := d.files.map fun e => if e.1 == p then (p, doc) else e }
  else { d with files := d.files ++ [(p, doc)] }

def dropFile (d : Disk) (p : Path) : Disk :=
  { d with files := d.files.filter fun e => e.1 != p }

def makeDirectory (d : Disk) (path : Path) : Except Fault Disk :=
  d.at_ path fun p =>
    if d.isDirectory p || (d.file? p).isSome then .error .occupied
    else .ok { d with directories := d.directories ++ [p] }

/-- What is left of a refusal to make a directory: nothing if it is there already. -/
def unlessDirectory (d : Disk) (path : Path) (f : Fault) : Option Fault :=
  if f.isDisk && d.holdsDirectory path then none else some f

/-- Makes a directory together with the directories above it, as far as they are missing. What has
been made stays when the rest is refused. -/
def layDirectories (d : Disk) (path : Path) : Disk × Option Fault :=
  match d.makeDirectory path with
  | .ok d => (d, none)
  | .error (.disk .missing p) =>
    if path.isEmpty then (d, some (.disk .missing p))
    else
      match d.layDirectories path.dropLast with
      | (d, some f) => (d, some f)
      | (d, none) =>
        match d.makeDirectory path with
        | .ok d => (d, none)
        | .error f => (d, d.unlessDirectory path f)
  | .error f => (d, d.unlessDirectory path f)
termination_by path.length
decreasing_by
  cases path with
  | nil => simp_all
  | cons a as => simp

/-- The disk with a directory and the directories above it, if they can be made. -/
def makeDirectories (d : Disk) (path : Path) : Except Fault Disk :=
  match d.layDirectories path with
  | (d, none) => .ok d
  | (_, some f) => .error f

/-- Makes an empty file unless there is something already. -/
def touch (d : Disk) (path : Path) : Except Fault Disk :=
  d.at_ path fun p =>
    .ok (if d.isDirectory p || (d.file? p).isSome then d else d.putFile p (.text ""))

def content (d : Disk) (path : Path) : Except Fault Document :=
  d.at_ path fun p =>
    match d.file? p with
    | some doc => .ok doc
    | none => .error (if d.isDirectory p then .isDirectory else .missing)

def writeContent (d : Disk) (path : Path) (doc : Document) : Except Fault Disk :=
  d.at_ path fun p =>
    if d.isDirectory p then .error .isDirectory else .ok (d.putFile p doc)

def discard (d : Disk) (path : Path) : Except Fault Disk :=
  d.at_ path fun p =>
    if (d.file? p).isSome then .ok (d.dropFile p)
    else .error (if d.isDirectory p then .isDirectory else .missing)

/-- The names in a directory, none if there is no such directory. -/
def names (d : Disk) (path : Path) : List String :=
  match d.at_ path fun p => .ok p with
  | .error _ => []
  | .ok p =>
    (d.directories ++ d.files.map (·.1)).filterMap fun q =>
      if !q.isEmpty && q.dropLast == p then q.getLast? else none

end Disk

end FolderTalk
