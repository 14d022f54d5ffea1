/-!
# Intents

What a command asks for, with every operand resolved, and the reply that was worded when it was
recognised.
-/

namespace FolderTalk

/-- The folder that a move goes to; it need not exist yet. -/
structure Destination where
  id : String
  name : String
  deriving DecidableEq, Repr, Inhabited

/-- What is to be done. -/
inductive Action where
  | undo
  | reset
  | info
  | list
  | openFolder (folderId : String)
  | renameFolder (folderId oldName newName : String)
  | deleteFolder (folderId folderName : String)
  | createNested (name parentId parentName : String)
  | createSimple (name : String)
  | moveByExtension (extension : String) (target : Destination) (createTarget : Bool)
      (fileNames : List String)
  | moveFile (fileName : String) (target : Destination) (createTarget : Bool)
  deriving DecidableEq, Repr, Inhabited

/-- An action and the reply to it. -/
structure Intent where
  action : Action
  summary : String := ""
  deriving DecidableEq, Repr, Inhabited

/-- The word that names the kind of action in stored and printed form. -/
def Action.tag : Action → String
  | undo => "undo"
  | reset => "reset"
  | info => "info"
  | list => "list"
  | openFolder _ => "open_folder"
  | renameFolder .. => "rename_folder"
  | deleteFolder .. => "delete_folder"
  | createNested .. => "create_nested_folder"
  | createSimple _ => "create_simple_folder"
  | moveByExtension .. => "move_all_by_extension"
  | moveFile .. => "move_file"

/-- The tags of all actions. -/
def Action.tags : List String :=
  ["undo", "reset", "info", "list", "open_folder", "rename_folder", "delete_folder",
   "create_nested_folder", "create_simple_folder", "move_all_by_extension", "move_file"]

end FolderTalk
