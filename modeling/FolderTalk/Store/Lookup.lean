import FolderTalk.Store.Basic
import FolderTalk.Text.Stretch

/-!
# Finding files and folders

Folders are found from free text in three tiers, each over all folders before the next: the name
up to case, the exact identifier, and an identifier that holds the text. Files are found by name
up to case.
-/

namespace FolderTalk

namespace Store

/-- The folder a phrase stands for: by name up to case, else by identifier, else by a part of an
identifier. -/
def findFolder (s : Store) (phrase : String) : Option Folder :=
  let needle := Text.strip (Text.toLower phrase)
  (s.folders.find? fun f => Text.toLower f.name == needle)
    <|> (s.folders.find? fun f => f.id == needle)
    <|> (s.folders.find? fun f => Text.isStretch needle.toList f.id.toList)

/-- The first file whose name is `name` up to case. -/
def findFile (s : Store) (name : String) : Option FileEntry :=
  s.files.find? fun f => Text.toLower f.name == Text.toLower name

def folderWithId (s : Store) (id : Option String) : Option Folder :=
  id.bind fun i => s.folders.find? (·.id == i)

def filesIn (s : Store) (id : String) : List FileEntry :=
  s.files.filter (·.folder == some id)

def unorganizedFiles (s : Store) : List FileEntry :=
  s.files.filter fun f => isUnset f.folder

def subfolders (s : Store) (parent : Option String) : List Folder :=
  s.folders.filter (·.parent == parent)

def topLevelFolders (s : Store) : List Folder :=
  s.folders.filter fun f => isUnset f.parent

def filesWithExtension (s : Store) (extension : String) : List FileEntry :=
  s.files.filter (·.extension == Text.toLower extension)

def folderIds (s : Store) : List String := s.folders.map (·.id)

end Store

end FolderTalk
