import FolderTalk.Intent
import FolderTalk.Schema.Check
import FolderTalk.Value.Shown

/-!
# Intents as data

How intents are written as free values and read back. The entry "action" says which kind of action
the other entries describe.
-/

namespace FolderTalk

open Schema

namespace Destination

def toValue (d : Destination) : Value :=
  .map [(.text "id", .text d.id), (.text "name", .text d.name)]

def check : Value → Checked Destination :=
  record "TargetFolder" fun e =>
    (Checked.valid Destination.mk
      |>.app (required e "id" text))
      |>.app (required e "name" text)

end Destination

namespace Action

/-- The entries that belong to the action itself. -/
def fields : Action → Entries
  | undo | reset | info | list => []
  | openFolder id => [(.text "folder_id", .text id)]
  | renameFolder id oldName newName =>
    [(.text "folder_id", .text id), (.text "old_name", .text oldName),
     (.text "new_name", .text newName)]
  | deleteFolder id name => [(.text "folder_id", .text id), (.text "folder_name", .text name)]
  | createNested name parentId parentName =>
    [(.text "new_folder_name", .text name), (.text "parent_folder_id", .text parentId),
     (.text "parent_folder_name", .text parentName)]
  | createSimple name => [(.text "new_folder_name", .text name)]
  | moveByExtension extension target create fileNames =>
    [(.text "file_extension", .text extension), (.text "target_folder", target.toValue),
     (.text "create_folder", .bool create), (.text "file_names", .list (fileNames.map .text))]
  | moveFile fileName target create =>
    [(.text "file_name", .text fileName), (.text "target_folder", target.toValue),
     (.text "create_folder", .bool create)]

/-- The action of the kind `tag` that the entries describe, if there is such a kind. -/
def check? (e : Entries) : (tag : String) → Option (Checked Action)
  | "undo" => some (.valid undo)
  | "reset" => some (.valid reset)
  | "info" => some (.valid info)
  | "list" => some (.valid list)
  | "open_folder" => some ((required e "folder_id" text).map openFolder)
  | "rename_folder" =>
    some ((((required e "folder_id" text).map renameFolder)
      |>.app (required e "old_name" text))
      |>.app (required e "new_name" text))
  | "delete_folder" =>
    some (((required e "folder_id" text).map deleteFolder)
      |>.app (required e "folder_name" text))
  | "create_nested_folder" =>
    some ((((required e "new_folder_name" text).map createNested)
      |>.app (required e "parent_folder_id" text))
      |>.app (required e "parent_folder_name" text))
  | "create_simple_folder" => some ((required e "new_folder_name" text).map createSimple)
  | "move_all_by_extension" =>
    some (((((required e "file_extension" text).map moveByExtension)
      |>.app (required e "target_folder" Destination.check))
      |>.app (optionalField e "create_folder" false boolean))
      |>.app (optionalField e "file_names" [] (listOf text)))
  | "move_file" =>
    some ((((required e "file_name" text).map moveFile)
      |>.app (required e "target_folder" Destination.check))
      |>.app (optionalField e "create_folder" false boolean))
  | _ => none

end Action

namespace Intent

def toValue (i : Intent) : Value :=
  .map ((.text "summary", .text i.summary) :: (.text "action", .text i.action.tag)
    :: i.action.fields)

/-- Issues of an intent stand under the name of its kind; the summary is checked first. -/
def check : Value → Checked Intent
  | .map e =>
    match Entries.get? e "action" with
    | none => fault (.noTag "action")
    | some tag =>
      let known := match tag with
        | .text s => (Action.check? e s).map fun action => (s, action)
        | _ => none
      match known with
      | none => fault (.unknownTag tag.shown "action" Action.tags)
      | some (s, action) =>
        (((optionalField e "summary" "" text).map fun summary action => Intent.mk action summary)
          |>.app action).under (.key s)
  | _ => fault .notTagged

end Intent

end FolderTalk
