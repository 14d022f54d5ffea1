import FolderTalk.Text.Blank
import FolderTalk.Text.Case

/-!
# The virtual tree

Files and folders are flat lists of records. A file names the folder it is in and a folder names
its parent, both by identifier; nothing here demands that such an identifier exists.
-/

namespace FolderTalk

/-- The coarse media category of a file. -/
inductive FileKind where
  | image | document | audio | video | other
  deriving DecidableEq, Repr, Inhabited

namespace FileKind

def all : List FileKind := [image, document, audio, video, other]

def name : FileKind → String
  | image => "image"
  | document => "document"
  | audio => "audio"
  | video => "video"
  | other => "other"

def ofName? (s : String) : Option FileKind := all.find? (·.name == s)

end FileKind

/-- A file of the tree; `folder` is `none` while the file is unorganized. -/
structure FileEntry where
  id : Int
  name : String
  kind : FileKind := .other
  size : String := ""
  folder : Option String := none
  deriving DecidableEq, Repr, Inhabited

/-- A folder of the tree; `parent` is `none` at the top. -/
structure Folder where
  id : String
  name : String
  color : String := ""
  parent : Option String := none
  deriving DecidableEq, Repr, Inhabited

/-- All files and folders of a session at one moment. -/
structure Store where
  files : List FileEntry := []
  folders : List Folder := []
  deriving DecidableEq, Repr, Inhabited

/-- What follows the last dot of `cs`, if there is a dot. -/
def afterLastDot? : List Char → Option (List Char)
  | [] => none
  | c :: cs =>
    match afterLastDot? cs with
    | some rest => some rest
    | none => if c == '.' then some cs else none

/-- The text after the last dot in small letters, empty when the name has no dot. -/
def FileEntry.extension (f : FileEntry) : String :=
  match afterLastDot? f.name.toList with
  | some rest => String.ofList (Text.lower rest)
  | none => ""

/-- A reference that names nothing: absent or empty. -/
def isUnset : Option String → Bool
  | none => true
  | some s => s == ""

end FolderTalk
