import FolderTalk.Schema.Check
import FolderTalk.Store.Basic

/-!
# Files and folders as data

How the records of the tree are written as free values and read back. Reading fills in absent
optional fields and overlooks keys that it does not know.
-/

namespace FolderTalk

open Schema

/-- A text or null. -/
def Value.ofOptionalText : Option String → Value
  | some s => .text s
  | none => .null

namespace FileEntry

def toValue (f : FileEntry) : Value :=
  .map [(.text "id", .int f.id), (.text "name", .text f.name), (.text "type", .text f.kind.name),
    (.text "size", .text f.size), (.text "folder", .ofOptionalText f.folder)]

def check : Value → Checked FileEntry :=
  record "FileRecord" fun e =>
    ((((Checked.valid FileEntry.mk
      |>.app (required e "id" integer))
      |>.app (required e "name" text))
      |>.app (optionalField e "type" .other
        (oneOf FileKind.ofName? (FileKind.all.map FileKind.name))))
      |>.app (optionalField e "size" "" text))
      |>.app (optionalField e "folder" none optionalText)

end FileEntry

namespace Folder

def toValue (f : Folder) : Value :=
  .map [(.text "id", .text f.id), (.text "name", .text f.name), (.text "color", .text f.color),
    (.text "parent", .ofOptionalText f.parent)]

def check : Value → Checked Folder :=
  record "FolderRecord" fun e =>
    (((Checked.valid Folder.mk
      |>.app (required e "id" text))
      |>.app (required e "name" text))
      |>.app (optionalField e "color" "" text))
      |>.app (optionalField e "parent" none optionalText)

end Folder

namespace Store

def toValue (s : Store) : Value :=
  .map [(.text "files", .list (s.files.map FileEntry.toValue)),
    (.text "folders", .list (s.folders.map Folder.toValue))]

def check : Value → Checked Store :=
  record "EntityStore" fun e =>
    (Checked.valid Store.mk
      |>.app (optionalField e "files" [] (listOf FileEntry.check)))
      |>.app (optionalField e "folders" [] (listOf Folder.check))

end Store

end FolderTalk
