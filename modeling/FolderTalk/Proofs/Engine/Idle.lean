import FolderTalk.Proofs.Command.Grounded
import FolderTalk.Proofs.Engine.Changed
import FolderTalk.Proofs.Engine.Step

/-!
# Changes that change nothing

* `Idle` : a renaming to the name that is there, or a move of files to the folder that they are in;
* `change_eq_self_iff` : of all actions that change the tree, these alone leave it as it is;
* `Desk.Restores` : an undo would bring back another tree;
* `execute_mutated_iff` : any other intent is reported to have changed the tree exactly if the tree is
  another one after it, or the intent was idle.
-/

namespace FolderTalk

/-- The newest record is of another tree. -/
def Desk.Restores (desk : Desk) : Prop :=
  ∃ s ∈ desk.history.snapshots.getLast?, s ≠ desk.store

namespace Engine

variable {palette : List String} {src left : Sources} {store s : Store} {action : Action}

/-- The action gives a folder the name that it has, or moves files to the folder that they are in. -/
inductive Idle (store : Store) (action : Action) : Prop
  | renamed (id oldName name : String) (h : action = .renameFolder id oldName name)
      (hnamed : ∀ f ∈ store.folders, f.id = id → f.name = name)
  | moved (m : Move) (h : action.move? = some m) (hold : m.create = false)
      (hplaced : ∀ f ∈ store.files, m.picks f = true → f.folder = some m.target.id)

/-! ## When a change leaves the tree as it is -/

theorem map_eq_self_iff {α : Type} {f : α → α} {xs : List α} :
    xs.map f = xs ↔ ∀ x ∈ xs, f x = x := by
  conv_lhs => rhs; rw [← List.map_id xs]
  exact List.map_inj_left

theorem renameFolder_eq_self_iff {id name : String} :
    renameFolder store id name = store ↔ ∀ f ∈ store.folders, f.id = id → f.name = name := by
  obtain ⟨files, folders⟩ := store
  simp only [renameFolder, Store.mk.injEq, true_and]
  rw [map_eq_self_iff]
  refine forall₂_congr fun ⟨own, _, _, _⟩ _ => ?_
  by_cases hid : own = id
  · simpa [hid] using eq_comm
  · simp [hid]

theorem moveFiles_eq_self_iff {picked : FileEntry → Bool} {id : String} :
    moveFiles store picked id = store ↔
      ∀ f ∈ store.files, picked f = true → f.folder = some id := by
  obtain ⟨files, folders⟩ := store
  simp only [moveFiles, Store.mk.injEq, and_true]
  rw [map_eq_self_iff]
  refine forall₂_congr fun f _ => ?_
  by_cases hpicked : picked f = true
  · obtain ⟨_, _, _, _, _⟩ := f
    simpa [hpicked] using eq_comm
  · simp [hpicked]

/-- A folder that is there is gone after its deletion. -/
theorem deleteFolder_ne {f : Folder} (hf : f ∈ store.folders) : deleteFolder store f.id ≠ store := by
  intro h
  have hkept : f ∈ (deleteFolder store f.id).folders := by rwa [h]
  simp [deleteFolder] at hkept

/-- A tree with one more folder is another tree, wherever its files are. -/
theorem ne_of_withFolder {f : Folder} (h : s.folders = (store.withFolder f).folders) : s ≠ store := by
  rintro rfl
  simpa [Store.withFolder] using congrArg List.length h

theorem not_idle_of_creation {p : String × Option String} (h : action.creation? = some p) :
    ¬ Idle store action := by
  rintro (⟨_, _, _, rfl, _⟩ | ⟨_, hm, _, _⟩)
  · cases h
  · cases action with
    | moveFile | moveByExtension => cases h
    | _ => cases hm

/-- **A change leaves the tree as it is** exactly if it is idle. -/
theorem change_eq_self_iff (hgrounded : Command.Grounded store action) (htree : action.changesTree)
    (h : change palette src store action = (some s, left)) : s = store ↔ Idle store action := by
  cases change_came h with
  | created name parent id color hcreation _ =>
    exact iff_of_false (ne_of_withFolder rfl) (not_idle_of_creation hcreation)
  | moved m hm hold =>
    rw [moveFiles_eq_self_iff]
    refine ⟨.moved m hm hold, ?_⟩
    rintro (⟨_, _, _, rfl, _⟩ | ⟨m', hm', _, hplaced⟩)
    · cases hm
    · obtain rfl := Option.some.inj (hm.symm.trans hm')
      exact hplaced
  | movedAnew m id color hm hnew _ =>
    refine iff_of_false (ne_of_withFolder rfl) ?_
    rintro (⟨_, _, _, rfl, _⟩ | ⟨m', hm', hold, _⟩)
    · cases hm
    · obtain rfl := Option.some.inj (hm.symm.trans hm')
      rw [hnew] at hold
      cases hold
  | renamed id oldName name heq =>
    subst heq
    rw [renameFolder_eq_self_iff]
    refine ⟨.renamed id oldName name rfl, ?_⟩
    rintro (⟨_, _, _, ⟨⟩, hnamed⟩ | ⟨_, hm, _, _⟩)
    · exact hnamed
    · cases hm
  | deleted id name heq =>
    subst heq
    cases hgrounded with
    | deleteFolder hf =>
      refine iff_of_false (deleteFolder_ne hf) ?_
      rintro (⟨_, _, _, ⟨⟩, _⟩ | ⟨_, hm, _, _⟩)
      cases hm
  | kept hkept =>
    rw [htree] at hkept
    cases hkept

/-- What is idle needs nothing that could fail. -/
theorem change_of_idle (palette : List String) (src : Sources) (h : Idle store action) :
    change palette src store action = (some store, src) := by
  cases h with
  | renamed id oldName name heq hnamed =>
    subst heq
    rw [change, renameFolder_eq_self_iff.mpr hnamed]
  | moved m hm hold hplaced =>
    have hsame := moveFiles_eq_self_iff.mpr hplaced
    cases action with
    | moveFile fileName target create =>
      cases hm
      obtain rfl : create = false := hold
      rw [change, ensureTarget]
      exact congrArg (fun s => (some s, src)) hsame
    | moveByExtension extension target create fileNames =>
      cases hm
      obtain rfl : create = false := hold
      rw [change, ensureTarget]
      exact congrArg (fun s => (some s, src)) hsame
    | _ => cases hm

theorem Idle.changesTree (h : Idle store action) : action.changesTree := by
  cases h with
  | renamed id oldName name heq _ => rw [heq]; rfl
  | moved m hm _ _ =>
    cases action with
    | moveFile | moveByExtension => rfl
    | _ => cases hm

/-! ## What is reported about an intent -/

/-- An idle intent is reported to have changed the tree, and it has not. -/
theorem execute_of_idle (palette : List String) (src : Sources) (intent : Intent) (desk : Desk)
    (h : Idle desk.store intent.action) :
    (execute palette src intent desk).1.mutated = true ∧
      (execute palette src intent desk).1.desk.store = desk.store := by
  rw [execute_of_changesTree _ _ _ _ h.changesTree, change_of_idle palette src h]
  exact ⟨rfl, rfl⟩

/-- **An intent that is no reset**, and no undo that brings back another tree, is reported to have
changed the tree exactly if the tree is another one after it, or the intent was idle. -/
theorem execute_mutated_iff (palette : List String) (src : Sources) (intent : Intent) (desk : Desk)
    (hgrounded : Command.Grounded desk.store intent.action)
    (hundo : intent.action = .undo → ¬ desk.Restores)
    (hreset : (execute palette src intent desk).1.reset = false) :
    (execute palette src intent desk).1.mutated = true ↔
      (execute palette src intent desk).1.desk.store ≠ desk.store ∨
        Idle desk.store intent.action := by
  by_cases hidle : Idle desk.store intent.action
  · exact iff_of_true (execute_of_idle palette src intent desk hidle).1 (.inr hidle)
  have hcame := execute_came palette src intent desk
  generalize execute palette src intent desk = r at hcame hreset
  cases hcame with
  | answered | opened | nothingRecorded | failed => simp [hidle]
  | restored older store h hs =>
    have hsame : store = desk.store := by
      by_contra hother
      exact hundo h ⟨store, by simp [hs], hother⟩
    simp [hidle, hsame]
  | afresh => cases hreset
  | applied store left htree hc => simp [hidle, change_eq_self_iff hgrounded htree hc]

end Engine

end FolderTalk
