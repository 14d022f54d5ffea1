import FolderTalk.Proofs.Engine.DistinctIds
import Mathlib

/-!
# What a change makes of the tree

* `Action.creation?`, `Action.move?` : the actions that create a folder and those that move files,
  each seen as one kind;
* `Changed` : everything that an action can make of a tree, one case a kind of action, with where
  the identifier of a new folder comes from (`change_came`);
* `Changed.folder_came` : a folder is an old one, perhaps with another name, or it is new.
-/

namespace FolderTalk

/-- The name and the parent of the folder that an action creates for its own sake. -/
def Action.creation? : Action → Option (String × Option String)
  | .createSimple name => some (name, none)
  | .createNested name parentId _ => some (name, some parentId)
  | _ => none

/-- A move of files: where to, whether that folder is to be created, and which files. -/
structure Move where
  target : Destination
  create : Bool
  picks : FileEntry → Bool

/-- The move that an action is, if it is one. -/
def Action.move? : Action → Option Move
  | .moveFile fileName target create => some ⟨target, create, fun f => f.name == fileName⟩
  | .moveByExtension _ target create fileNames =>
    some ⟨target, create, fun f => fileNames.contains f.name⟩
  | _ => none

/-- The tree with one more folder. -/
def Store.withFolder (s : Store) (f : Folder) : Store := { s with folders := s.folders ++ [f] }

namespace Engine

/-- Where the identifier of the folder that a move creates comes from: its own one while that is
free, otherwise a stamped one. -/
def TargetId (src : Sources) (store : Store) (target : Destination) (id : String) : Prop :=
  (target.id ∉ store.folderIds ∧ id = target.id) ∨
    (target.id ∈ store.folderIds ∧ uniqueId? src store target.id = some id)

/-- Everything that an action can make of a tree. -/
inductive Changed (src : Sources) (store : Store) (action : Action) : Store → Prop
  | created (name : String) (parent : Option String) (id color : String)
      (h : action.creation? = some (name, parent))
      (hid : uniqueId? src store (idBase name parent) = some id) :
      Changed src store action (store.withFolder ⟨id, name, color, parent⟩)
  | moved (m : Move) (h : action.move? = some m) (hold : m.create = false) :
      Changed src store action (moveFiles store m.picks m.target.id)
  | movedAnew (m : Move) (id color : String) (h : action.move? = some m) (hnew : m.create = true)
      (hid : TargetId src store m.target id) :
      Changed src store action
        (moveFiles (store.withFolder ⟨id, m.target.name, color, none⟩) m.picks id)
  | renamed (id oldName name : String) (h : action = .renameFolder id oldName name) :
      Changed src store action (renameFolder store id name)
  | deleted (id name : String) (h : action = .deleteFolder id name) :
      Changed src store action (deleteFolder store id)
  | kept (h : action.changesTree = false) : Changed src store action store

variable {palette : List String} {src left : Sources} {store s : Store} {action : Action}

theorem changed_of_createFolder {name : String} {parent : Option String}
    (ha : action.creation? = some (name, parent))
    (h : createFolder palette src store name parent = (some s, left)) :
    Changed src store action s := by
  obtain ⟨id, color, hid, rfl⟩ := createFolder_some h
  exact .created name parent id color ha hid

theorem changed_of_ensureTarget {m : Move} (ha : action.move? = some m)
    (h : ((ensureTarget palette src store m.target m.create).1.map
      fun (id, ready) => moveFiles ready m.picks id) = some s) : Changed src store action s := by
  obtain ⟨⟨id, ready⟩, hready, rfl⟩ := Option.map_eq_some_iff.mp h
  rcases ensureTarget_some (Prod.ext hready rfl) with ⟨hold, rfl, rfl⟩ | ⟨hnew, color, rfl, hid⟩
  · exact .moved m ha hold
  · exact .movedAnew m id color ha hnew hid

/-- **A change** makes of the tree what its kind says. -/
theorem change_came (h : change palette src store action = (some s, left)) :
    Changed src store action s := by
  cases action with
  | createSimple name => exact changed_of_createFolder rfl h
  | createNested name parentId _ => exact changed_of_createFolder rfl h
  | moveFile fileName target create =>
    exact changed_of_ensureTarget (m := ⟨target, create, _⟩) rfl (Prod.mk.inj h).1
  | moveByExtension _ target create fileNames =>
    exact changed_of_ensureTarget (m := ⟨target, create, _⟩) rfl (Prod.mk.inj h).1
  | renameFolder id oldName name =>
    cases h
    exact .renamed id oldName name rfl
  | deleteFolder id name =>
    cases h
    exact .deleted id name rfl
  | undo | reset | info | list | openFolder _ =>
    cases h
    exact .kept rfl

/-- A move puts its files into the folder that is there, or into a new one. -/
theorem Changed.cases_of_move (h : Changed src store action s) {m : Move}
    (hm : action.move? = some m) :
    (m.create = false ∧ s = moveFiles store m.picks m.target.id) ∨
      (m.create = true ∧ ∃ id color, TargetId src store m.target id ∧
        s = moveFiles (store.withFolder ⟨id, m.target.name, color, none⟩) m.picks id) := by
  cases h with
  | created name parent id color hcreation _ =>
    cases action with
    | moveFile | moveByExtension => cases hcreation
    | _ => cases hm
  | moved m' hm' hold =>
    obtain rfl := Option.some.inj (hm.symm.trans hm')
    exact .inl ⟨hold, rfl⟩
  | movedAnew m' id color hm' hnew hid =>
    obtain rfl := Option.some.inj (hm.symm.trans hm')
    exact .inr ⟨hnew, id, color, hid, rfl⟩
  | renamed id oldName name heq =>
    subst heq
    cases hm
  | deleted id name heq =>
    subst heq
    cases hm
  | kept hkept =>
    cases action with
    | moveFile | moveByExtension => cases hkept
    | _ => cases hm

theorem not_mem_of_targetId {target : Destination} {id : String} (h : TargetId src store target id) :
    id ∉ store.folderIds := by
  rcases h with ⟨hfree, rfl⟩ | ⟨_, hid⟩
  · exact hfree
  · exact uniqueId?_not_mem hid

/-- **A folder after a change** is an old one, perhaps with another name, or it has a new identifier;
if a new one has a parent, then it was created inside it. -/
theorem Changed.folder_came (h : Changed src store action s) {f : Folder} (hf : f ∈ s.folders) :
    (∃ g ∈ store.folders, f = { g with name := f.name }) ∨
      (f.id ∉ store.folderIds ∧
        ∀ p, f.parent = some p → uniqueId? src store (idBase f.name (some p)) = some f.id) := by
  cases h with
  | created name parent id color _ hid =>
    rcases List.mem_append.mp hf with hold | hnew
    · exact .inl ⟨f, hold, rfl⟩
    · obtain rfl := List.mem_singleton.mp hnew
      refine .inr ⟨uniqueId?_not_mem hid, ?_⟩
      rintro p rfl
      exact hid
  | moved m _ _ => exact .inl ⟨f, hf, rfl⟩
  | movedAnew m id color _ _ hid =>
    rcases List.mem_append.mp hf with hold | hnew
    · exact .inl ⟨f, hold, rfl⟩
    · obtain rfl := List.mem_singleton.mp hnew
      refine .inr ⟨not_mem_of_targetId hid, ?_⟩
      intro p hp
      cases hp
  | renamed id _ name _ =>
    obtain ⟨g, hg, rfl⟩ := List.mem_map.mp hf
    refine .inl ⟨g, hg, ?_⟩
    split <;> rfl
  | deleted id _ _ => exact .inl ⟨f, List.mem_of_mem_filter hf, rfl⟩
  | kept _ => exact .inl ⟨f, hf, rfl⟩

end Engine

end FolderTalk
