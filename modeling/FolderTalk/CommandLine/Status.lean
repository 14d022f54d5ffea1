import FolderTalk.CommandLine.Answer
import FolderTalk.Outline
import FolderTalk.Session.Basic
import FolderTalk.Terminal.Table
import FolderTalk.Terminal.Tree

/-!
# The status of a session

The tree of the folders, the content of the open folder as a table, and the number of steps that
can be undone. The names of folders and files are printed as marked-up texts.
-/

namespace FolderTalk.CommandLine

open Terminal

namespace Status

/-- The mark behind the open folder. -/
def openMark (isOpen : Bool) : String :=
  if isOpen then " [bold yellow]<- open[/bold yellow]" else ""

/-- The label of the root, which stands for the unorganized files. -/
def rootLabel (s : Store) (selected : Option String) : String :=
  "[bold]All Files[/bold] [dim](" ++ toString s.unorganizedFiles.length ++ " files)[/dim]"
    ++ openMark selected.isNone

def folderLabel (s : Store) (selected : Option String) (f : Folder) : String :=
  "[bold]" ++ f.name ++ "[/bold] [dim](" ++ f.id ++ ", " ++ toString (s.filesIn f.id).length
    ++ " files)[/dim]" ++ openMark (selected == some f.id)

mutual

/-- The labels of a branch. -/
def labelled (label : Folder → String) : Branch → Tree
  | .node folder children => .node (label folder).toList (labelledAll label children)

def labelledAll (label : Folder → String) : List Branch → List Tree
  | [] => []
  | b :: bs => labelled label b :: labelledAll label bs

end

/-- The labels of the folders that hang nowhere. -/
def orphanTree (label : Folder → String) : List Folder → List Tree
  | [] => []
  | orphans =>
    [.node "[yellow]Orphaned folders[/yellow]".toList
      (orphans.map fun f => .node (label f).toList [])]

/-- The tree of the folders. -/
def tree (s : Store) (selected : Option String) : Tree :=
  let outline := Outline.ofStore s
  let label := folderLabel s selected
  .node (rootLabel s selected).toList
    (labelledAll label outline.top ++ orphanTree label outline.orphans)

/-- The table of what the open folder holds. -/
def table (v : View) : Table :=
  { title := ((v.folder.map (·.name)).getD "All Files").toList
    columns :=
      [{ head := "Name".toList
         cells := v.subfolders.map (fun f => (f.name ++ "/").toList)
           ++ v.files.map (·.name.toList) },
       { head := "Type".toList
         cells := v.subfolders.map (fun _ => "folder".toList)
           ++ v.files.map (·.kind.name.toList) },
       { head := "Size".toList
         side := .right
         cells := v.subfolders.map (fun _ => []) ++ v.files.map (·.size.toList) }] }

/-- Lines without tags, or the fault of their tags. -/
def drawn : Except MarkupError (List (List Char)) → Except Fault String
  | .ok lines => .ok (textOfLines lines)
  | .error e => .error (.markup e)

/-- The status as it is printed. -/
def answer (s : Session) : Answer :=
  let store := s.desk.store
  .sequence
    [drawn (tree store s.desk.selected).draw,
     drawn (table s.view).draw,
     printed ("[dim]Undo steps available: " ++ toString s.desk.history.size ++ "[/dim]").toList]

/-- The status as data. -/
def toValue (s : Session) : Value :=
  .map
    [(.text "session", .text s.name),
     (.text "files", .list (s.desk.store.files.map FileEntry.toValue)),
     (.text "folders", .list (s.desk.store.folders.map Folder.toValue)),
     (.text "selected_folder", .ofOptionalText s.desk.selected),
     (.text "history_depth", .int s.desk.history.size)]

end Status

end FolderTalk.CommandLine
