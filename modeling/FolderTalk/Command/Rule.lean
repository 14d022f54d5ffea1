import FolderTalk.Command.Pattern

/-!
# The command rules

Ten rules in the order in which they are tried. Nested creation stands before simple creation and
moving by extension before moving one file, because the later pattern of either pair is found
wherever the earlier one is.
-/

namespace FolderTalk.Command

open Pattern

/-- The kinds of command that have a pattern. -/
inductive Rule where
  | undo | reset | renameFolder | deleteFolder | createNested | createSimple
  | moveByExtension | moveFile | list | openFolder
  deriving DecidableEq, Repr

namespace Rule

/-- The rules in the order in which they are tried. -/
def all : List Rule :=
  [undo, reset, renameFolder, deleteFolder, createNested, createSimple, moveByExtension, moveFile,
   list, openFolder]

theorem mem_all (r : Rule) : r ∈ all := by
  cases r <;> decide

def name : Rule → String
  | undo => "undo"
  | reset => "reset"
  | renameFolder => "rename_folder"
  | deleteFolder => "delete_folder"
  | createNested => "create_nested_folder"
  | createSimple => "create_simple_folder"
  | moveByExtension => "move_all_by_extension"
  | moveFile => "move_file"
  | list => "list"
  | openFolder => "open_folder"

def blanks : Pattern := run .blank

def quoteMark : Pattern := optional (one .quote)

/-- A folder name, kept as a group, with an optional quote on either side. -/
def folderName : Pattern := inOrder [quoteMark, group (run .name), quoteMark]

/-- A file name, kept as a group, with an optional quote on either side. -/
def fileName : Pattern := inOrder [quoteMark, group (run .fileName), quoteMark]

/-- A word that may be left out together with the white space after it. -/
def optionalWord (s : String) : Pattern := optional (inOrder [word s, blanks])

/-- The opening of both creation commands. -/
def createOpening : Pattern :=
  inOrder [word "create", blanks, optionalWord "a", optionalWord "new", word "folder", blanks,
    optional (either (inOrder [word "called", blanks]) (inOrder [word "named", blanks]))]

/-- The word before a move's destination. -/
def toward : Pattern := either (word "to") (word "into")

/-- How the rule's command is written. -/
def pattern : Rule → Pattern
  | undo =>
    inOrder [group (firstOf [word "undo", word "revert", word "go back", word "reverse",
      word "cancel"]), atEnd]
  | reset =>
    inOrder [group (firstOf [word "reset", word "clear all", word "start over",
      word "restore default"]), atEnd]
  | renameFolder =>
    inOrder [word "rename", blanks, optionalWord "folder", folderName, blanks, word "to", blanks,
      folderName]
  | deleteFolder => inOrder [word "delete", blanks, optionalWord "folder", folderName]
  | createNested =>
    inOrder [createOpening, folderName, blanks,
      firstOf [word "inside", word "in", word "within", word "under"], blanks, folderName]
  | createSimple => inOrder [createOpening, folderName]
  | moveByExtension =>
    inOrder [word "move", blanks, word "all", blanks, optional (word "."), group (run .word), blanks,
      optional (inOrder [word "file", optional (word "s"), blanks]), toward, blanks, folderName]
  | moveFile => inOrder [word "move", blanks, fileName, blanks, toward, blanks, folderName]
  | list =>
    inOrder [firstOf [word "list", word "show", word "display"], blanks, optionalWord "all",
      either (word "files") (word "folders")]
  | openFolder => inOrder [word "open", blanks, optionalWord "folder", folderName]

/-- Whether the command must be the whole text. -/
def isWholeText : Rule → Bool
  | undo | reset => true
  | _ => false

/-- The first place in the text where the rule's command is written. -/
def find (r : Rule) (text : List Char) : Option Found :=
  if r.isWholeText then r.pattern.matchHere text else r.pattern.search text

end Rule

end FolderTalk.Command
