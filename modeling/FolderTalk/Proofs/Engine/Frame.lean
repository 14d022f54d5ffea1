import FolderTalk.Proofs.Engine.Changed

/-!
# What an intent leaves alone

* `Framed` : from one tree to another, files have changed their places and nothing else; folders are
  there as before, but for those that the action removes and the name of one that it renames; and at
  most one folder is new;
* `execute_framed` : every intent but undo and reset goes from a tree to such a tree, whatever the
  intent refers to and whether it fails or not.
-/

namespace FolderTalk

/-- The file without its place. -/
def FileEntry.unplaced (f : FileEntry) : FileEntry := { f with folder := none }

/-- The files of the tree without their places. -/
def Store.unplacedFiles (s : Store) : List FileEntry := s.files.map FileEntry.unplaced

namespace Action

/-- The action deletes the folder or its parent. -/
def removes : Action → Folder → Bool
  | .deleteFolder id _, f => f.id == id || f.parent == some id
  | _, _ => false

/-- The folder is what it was, but perhaps for a name that the action gives to this very folder. -/
structure Keeps (a : Action) (old new : Folder) : Prop where
  id : new.id = old.id
  color : new.color = old.color
  parent : new.parent = old.parent
  name : new.name = old.name ∨ ∃ oldName, a = .renameFolder old.id oldName new.name

theorem keeps_self (a : Action) (f : Folder) : a.Keeps f f := ⟨rfl, rfl, rfl, .inl rfl⟩

theorem removes_eq_false {a : Action} (h : ∀ id name, a ≠ .deleteFolder id name) (f : Folder) :
    a.removes f = false := by
  cases a with
  | deleteFolder id name => exact absurd rfl (h id name)
  | _ => rfl

end Action

namespace Engine

/-- What an action that goes from one tree to another has left alone. -/
structure Framed (a : Action) (before after : Store) : Prop where
  files : after.unplacedFiles = before.unplacedFiles
  folders : ∃ kept added, after.folders = kept ++ added ∧
    List.Forall₂ a.Keeps (before.folders.filter fun f => !a.removes f) kept ∧
    added.length ≤ 1 ∧ ∀ f ∈ added, f.id ∉ before.folderIds

variable {palette : List String} {src : Sources} {store s : Store} {a : Action}

theorem unplacedFiles_moveFiles (store : Store) (picked : FileEntry → Bool) (id : String) :
    (moveFiles store picked id).unplacedFiles = store.unplacedFiles := by
  show (store.files.map _).map _ = store.files.map _
  rw [List.map_map]
  refine List.map_congr_left fun f _ => ?_
  dsimp only [Function.comp]
  split <;> rfl

/-- The folders are all there, one by one as before. -/
theorem forall₂_keeps (hkeeps : ∀ id name, a ≠ .deleteFolder id name) (folders : List Folder) :
    List.Forall₂ a.Keeps (folders.filter fun f => !a.removes f) folders := by
  have hall : (folders.filter fun f => !a.removes f) = folders :=
    List.filter_eq_self.mpr fun f _ => by rw [Action.removes_eq_false hkeeps]; rfl
  rw [hall]
  exact List.forall₂_same.mpr fun f _ => a.keeps_self f

theorem framed_of_folders (hkeeps : ∀ id name, a ≠ .deleteFolder id name)
    (hfiles : s.unplacedFiles = store.unplacedFiles) (hfolders : s.folders = store.folders) :
    Framed a store s :=
  ⟨hfiles, store.folders, [], by rw [hfolders, List.append_nil], forall₂_keeps hkeeps _,
    Nat.zero_le _, fun _ hmem => absurd hmem List.not_mem_nil⟩

theorem framed_of_added (hkeeps : ∀ id name, a ≠ .deleteFolder id name)
    (hfiles : s.unplacedFiles = store.unplacedFiles) {f : Folder}
    (hfolders : s.folders = store.folders ++ [f]) (hnew : f.id ∉ store.folderIds) :
    Framed a store s :=
  ⟨hfiles, store.folders, [f], hfolders, forall₂_keeps hkeeps _, Nat.le_refl 1,
    List.forall_mem_singleton.mpr hnew⟩

theorem framed_renameFolder (store : Store) (id oldName name : String) :
    Framed (.renameFolder id oldName name) store (renameFolder store id name) := by
  refine ⟨rfl, _, [], (List.append_nil _).symm, ?_, Nat.zero_le _,
    fun _ hmem => absurd hmem List.not_mem_nil⟩
  rw [show (store.folders.filter fun f => !(Action.renameFolder id oldName name).removes f) =
    store.folders from List.filter_eq_self.mpr fun _ _ => rfl]
  refine List.forall₂_map_right_iff.mpr (List.forall₂_same.mpr fun f _ => ?_)
  split
  · next hid => exact ⟨rfl, rfl, rfl, .inr ⟨oldName, by rw [beq_iff_eq.mp hid]⟩⟩
  · exact Action.keeps_self _ f

theorem framed_deleteFolder (store : Store) (id name : String) :
    Framed (.deleteFolder id name) store (deleteFolder store id) := by
  refine ⟨?_, _, [], (List.append_nil _).symm, ?_, Nat.zero_le _,
    fun _ hmem => absurd hmem List.not_mem_nil⟩
  · show (store.files.map _).map _ = store.files.map _
    rw [List.map_map]
    refine List.map_congr_left fun f _ => ?_
    dsimp only [Function.comp]
    split <;> rfl
  · have hspared : (fun f : Folder => !(Action.deleteFolder id name).removes f) =
        fun f => f.id != id && f.parent != some id := by
      funext f
      exact Bool.not_or _ _
    rw [hspared]
    exact List.forall₂_same.mpr fun f _ => Action.keeps_self _ f

/-- **A change** leaves everything alone that its action is not about. -/
theorem Changed.framed (h : Changed src store a s) : Framed a store s := by
  cases h with
  | created name parent id color hcreation hid =>
    refine framed_of_added ?_ rfl rfl (uniqueId?_not_mem hid)
    rintro _ _ rfl
    cases hcreation
  | moved m hmove _ =>
    refine framed_of_folders ?_ (unplacedFiles_moveFiles ..) rfl
    rintro _ _ rfl
    cases hmove
  | movedAnew m id color hmove _ hid =>
    refine framed_of_added ?_ (unplacedFiles_moveFiles ..) rfl (not_mem_of_targetId hid)
    rintro _ _ rfl
    cases hmove
  | renamed id oldName name hrename =>
    rw [hrename]
    exact framed_renameFolder store id oldName name
  | deleted id name hdelete =>
    rw [hdelete]
    exact framed_deleteFolder store id name
  | kept htree =>
    refine framed_of_folders ?_ rfl rfl
    rintro _ _ rfl
    cases htree

/-- **An intent** other than undo and reset leaves everything alone that it is not about. -/
theorem execute_framed (palette : List String) (src : Sources) {intent : Intent} (desk : Desk)
    (hundo : intent.action ≠ .undo) (hreset : intent.action ≠ .reset) :
    Framed intent.action desk.store (execute palette src intent desk).1.desk.store := by
  have hcame := execute_came palette src intent desk
  generalize execute palette src intent desk = r at hcame
  cases hcame with
  | answered h =>
    refine framed_of_folders (fun _ _ hdelete => ?_) rfl rfl
    rcases h with h | h <;> cases h.symm.trans hdelete
  | opened id h =>
    refine framed_of_folders (fun _ _ hdelete => ?_) rfl rfl
    cases h.symm.trans hdelete
  | nothingRecorded h _ => exact absurd h hundo
  | restored _ _ h _ => exact absurd h hundo
  | afresh h => exact absurd h hreset
  | failed left _ hc =>
    refine framed_of_folders (fun _ _ hdelete => ?_) rfl rfl
    rw [hdelete] at hc
    cases hc
  | applied store left _ hc => exact (change_came hc).framed

/-- The files of the tree and of every recorded tree stay the same ones under any intent. -/
theorem step_unplacedFiles (palette : List String) (p : Desk × Sources) (intent : Intent)
    (h : p.1.All fun s => s.unplacedFiles = Store.seedFiles) :
    (step palette p intent).1.All fun s => s.unplacedFiles = Store.seedFiles :=
  step_all (by decide) (fun _ _ _ _ _ _ hc hs => (change_came hc).framed.files.trans hs) palette p
    intent h

end Engine

end FolderTalk
