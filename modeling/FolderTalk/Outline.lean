import FolderTalk.Store.Lookup

/-!
# The outline of the folders

The folders of a store in the order and nesting in which they are shown. A folder is shown where it
is met first, so parents that go round in a circle do no harm. Folders that are never met on the
way down from the top are orphans and shown on their own.
-/

namespace FolderTalk

/-- A folder with the folders below it. -/
inductive Branch where
  | node (folder : Folder) (children : List Branch)

/-- All folders of a store, nested. -/
structure Outline where
  top : List Branch
  orphans : List Folder

namespace Outline

/-- Branches so far, with the identifiers of all folders that have been met. -/
abbrev Growth := List Branch × List String

/-- Adds a folder to the branches, with what grows from its subfolders. -/
def hang (s : Store) (below : List String → List Folder → Growth) (g : Growth) (f : Folder) :
    Growth :=
  let (children, met) := below (f.id :: g.2) (s.subfolders (some f.id))
  (g.1 ++ [.node f children], met)

/-- The branches of those folders that have not been met, nested at most `levels` deep. Each level
meets a folder of its own, so as many levels as there are folders cut nothing off. -/
def grow (s : Store) : (levels : Nat) → (met : List String) → List Folder → Growth
  | 0, met, _ => ([], met)
  | levels + 1, met, folders =>
    folders.foldl (fun g f => if g.2.contains f.id then g else hang s (grow s levels) g f) ([], met)

/-- The branches of the top-level folders. -/
def growTop (s : Store) : Growth :=
  s.topLevelFolders.foldl (hang s (grow s s.folders.length)) ([], [])

/-- The outline of a store. -/
def ofStore (s : Store) : Outline :=
  let (top, met) := growTop s
  ⟨top, s.folders.filter fun f => !met.contains f.id⟩

end Outline

end FolderTalk
