import FolderTalk.Engine.Palette
import FolderTalk.Engine.Sources
import FolderTalk.History
import FolderTalk.Intent
import FolderTalk.Name
import FolderTalk.Number.Numeral
import FolderTalk.Store.Lookup
import FolderTalk.Store.Seed

/-!
# Executing an intent

An intent is applied to a store, its undo history and the open folder. Actions that change the
tree record the store they start from; undo brings back the newest record; reset returns to the
seed tree. When the clock or the choice of a colour fails, or a stamp has too many digits for a text,
nothing is changed at all.
-/

namespace FolderTalk

/-- What an intent is applied to: the tree, its history and the open folder. -/
structure Desk where
  store : Store
  history : History
  selected : Option String := none
  deriving DecidableEq, Repr

/-- What came of an intent. -/
structure Effect where
  desk : Desk
  message : String
  mutated : Bool := false
  reset : Bool := false
  deriving DecidableEq, Repr

namespace Engine

def nothingToUndo : String := "Nothing to undo! You haven't made any changes yet."

def undone : String := "✅ Undone! Restored to previous state."

def resetDone : String := "✅ All files and folders have been reset to default!"

def failed : String := "❌ An error occurred while processing your command."

/-! ## New folders -/

def stampedId (base : String) (stamp : Int) : String := base ++ "-" ++ toString stamp

/-- The identifier with a stamp, unless the stamp has more digits than are turned into text. -/
def stampedId? (base : String) (stamp : Int) : Option String :=
  if stamp.natAbs < Nat.pow 10 Numeral.maxDigits then some (stampedId base stamp) else none

/-- The first free identifier `base-stamp`, `base-(stamp+1)`, …, looking past `tries` taken ones;
there is none if it comes to a stamp without a text. As many tries as there are taken identifiers
are enough. -/
def firstFreeId? (taken : List String) (base : String) : (tries : Nat) → (stamp : Int) → Option String
  | 0, stamp => stampedId? base stamp
  | tries + 1, stamp =>
    (stampedId? base stamp).bind fun id =>
      if taken.contains id then firstFreeId? taken base tries (stamp + 1) else some id

/-- An identifier that no folder of the store has, from the next clock reading on. -/
def uniqueId? (src : Sources) (store : Store) (base : String) : Option String :=
  src.now?.bind fun stamp => firstFreeId? store.folderIds base store.folders.length stamp

/-- The base of a new folder's identifier: its slug, after its parent's identifier if it has
one. -/
def idBase (name : String) : Option String → String
  | none => Name.slug name
  | some parent => parent ++ "-" ++ Name.slug name

/-- Adds a folder at the end of the store, if its colour can be chosen. -/
def addFolder (palette : List String) (src : Sources) (store : Store) (id name : String)
    (parent : Option String) : Option Store × Sources :=
  ((src.color? palette).map fun color =>
      { store with folders := store.folders ++ [⟨id, name, color, parent⟩] },
   src.afterChoice)

/-- Creates a folder under a stamped identifier. -/
def createFolder (palette : List String) (src : Sources) (store : Store) (name : String)
    (parent : Option String) : Option Store × Sources :=
  match uniqueId? src store (idBase name parent) with
  | none => (none, src.afterReading)
  | some id => addFolder palette src.afterReading store id name parent

/-- Makes sure that a move's destination exists and gives its identifier. A new destination keeps
its plain identifier while no other folder has it. -/
def ensureTarget (palette : List String) (src : Sources) (store : Store) (target : Destination)
    (create : Bool) : Option (String × Store) × Sources :=
  if !create then (some (target.id, store), src)
  else if store.folderIds.contains target.id then
    match uniqueId? src store target.id with
    | none => (none, src.afterReading)
    | some id =>
      let (added, src) := addFolder palette src.afterReading store id target.name none
      (added.map fun s => (id, s), src)
  else
    let (added, src) := addFolder palette src store target.id target.name none
    (added.map fun s => (target.id, s), src)

/-! ## Changes to the tree -/

/-- Puts every file that satisfies `picked` into a folder. -/
def moveFiles (store : Store) (picked : FileEntry → Bool) (folderId : String) : Store :=
  { store with
    files := store.files.map fun f => if picked f then { f with folder := some folderId } else f }

def renameFolder (store : Store) (id name : String) : Store :=
  { store with
    folders := store.folders.map fun f => if f.id == id then { f with name := name } else f }

/-- Removes a folder and its immediate subfolders; the files of the folder itself become
unorganized. -/
def deleteFolder (store : Store) (id : String) : Store :=
  { files := store.files.map fun f => if f.folder == some id then { f with folder := none } else f
    folders := store.folders.filter fun f => f.id != id && f.parent != some id }

/-- The store after an action that changes the tree, unless a source failed. -/
def change (palette : List String) (src : Sources) (store : Store) :
    Action → Option Store × Sources
  | .createSimple name => createFolder palette src store name none
  | .createNested name parentId _ => createFolder palette src store name (some parentId)
  | .moveFile fileName target create =>
    let (ready, src) := ensureTarget palette src store target create
    (ready.map fun (id, s) => moveFiles s (·.name == fileName) id, src)
  | .moveByExtension _ target create fileNames =>
    let (ready, src) := ensureTarget palette src store target create
    (ready.map fun (id, s) => moveFiles s (fun f => fileNames.contains f.name) id, src)
  | .renameFolder id _ newName => (some (renameFolder store id newName), src)
  | .deleteFolder id _ => (some (deleteFolder store id), src)
  | .undo | .reset | .info | .list | .openFolder _ => (some store, src)

/-- What a deletion adds to its reply. -/
def unlinkedNote (count : Nat) : String :=
  if count == 0 then "" else " " ++ toString count ++ " file(s) moved to \"All Files\"."

/-- The reply to an applied action. -/
def replyTo (intent : Intent) (before : Store) : String :=
  match intent.action with
  | .deleteFolder id _ => intent.summary ++ unlinkedNote (before.filesIn id).length
  | _ => intent.summary

/-- The open folder after an action that changes the tree. -/
def selectionAfter (action : Action) (selected : Option String) : Option String :=
  match action with
  | .deleteFolder id _ => if selected == some id then none else selected
  | _ => selected

/-- Brings back the newest recorded store. -/
def undo (desk : Desk) : Effect :=
  match desk.history.pop? with
  | none => { desk := desk, message := nothingToUndo }
  | some (store, history) =>
    { desk := { desk with store := store, history := history }, message := undone }

/-- Returns to the seed tree with an empty history. -/
def reset (desk : Desk) : Effect :=
  { desk := { store := Store.seed, history := .empty desk.history.limit desk.history.limit_pos }
    message := resetDone
    reset := true }

/-- Applies an intent; a failing source leaves the desk as it was. -/
def execute (palette : List String) (src : Sources) (intent : Intent) (desk : Desk) :
    Effect × Sources :=
  match intent.action with
  | .info | .list => ({ desk := desk, message := intent.summary }, src)
  | .openFolder id => ({ desk := { desk with selected := some id }, message := intent.summary }, src)
  | .undo => (undo desk, src)
  | .reset => (reset desk, src)
  | action =>
    match change palette src desk.store action with
    | (none, src) => ({ desk := desk, message := failed }, src)
    | (some store, src) =>
      ({ desk :=
          { store := store
            history := desk.history.push desk.store
            selected := selectionAfter action desk.selected }
         message := replyTo intent desk.store
         mutated := true }, src)

end Engine

end FolderTalk
