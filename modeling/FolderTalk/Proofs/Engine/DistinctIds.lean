import FolderTalk.Proofs.Engine.FreeStamp
import FolderTalk.Proofs.Engine.Step
import Mathlib

/-!
# Folder identifiers stay distinct

* `change_distinctIds` : no change to the tree gives two folders one identifier;
* `run_distinctIds` : so no run does, whatever the clock says.
-/

namespace FolderTalk

/-- No two folders have the same identifier. -/
def Store.DistinctIds (s : Store) : Prop := s.folderIds.Nodup

instance : DecidablePred Store.DistinctIds := fun s => inferInstanceAs (Decidable s.folderIds.Nodup)

theorem Store.seed_distinctIds : Store.seed.DistinctIds := by decide

namespace Engine

/-! ## What the changes do to the folders -/

/-- A folder is added at the end, the files stay as they are. -/
theorem addFolder_some {palette : List String} {src left : Sources} {store s : Store}
    {id name : String} {parent : Option String}
    (h : addFolder palette src store id name parent = (some s, left)) :
    ∃ color, s = { store with folders := store.folders ++ [⟨id, name, color, parent⟩] } := by
  unfold addFolder at h
  obtain ⟨hs, _⟩ := Prod.mk.inj h
  obtain ⟨color, _, rfl⟩ := Option.map_eq_some_iff.mp hs
  exact ⟨color, rfl⟩

theorem createFolder_some {palette : List String} {src left : Sources} {store s : Store}
    {name : String} {parent : Option String}
    (h : createFolder palette src store name parent = (some s, left)) :
    ∃ id color, uniqueId? src store (idBase name parent) = some id ∧
      s = { store with folders := store.folders ++ [⟨id, name, color, parent⟩] } := by
  unfold createFolder at h
  split at h
  · cases h
  · next id hid =>
    obtain ⟨color, rfl⟩ := addFolder_some h
    exact ⟨id, color, hid, rfl⟩

/-- A destination is there already, or it comes in as a top-level folder: under its own identifier
while that is free and under a stamped one otherwise. -/
theorem ensureTarget_some {palette : List String} {src left : Sources} {store s : Store}
    {target : Destination} {create : Bool} {id : String}
    (h : ensureTarget palette src store target create = (some (id, s), left)) :
    (create = false ∧ id = target.id ∧ s = store) ∨
      (create = true ∧ ∃ color,
        s = { store with folders := store.folders ++ [⟨id, target.name, color, none⟩] } ∧
        ((target.id ∉ store.folderIds ∧ id = target.id) ∨
          (target.id ∈ store.folderIds ∧ uniqueId? src store target.id = some id))) := by
  unfold ensureTarget at h
  split at h
  · next hcreate =>
    cases h
    exact .inl ⟨by simpa using hcreate, rfl, rfl⟩
  · next hcreate =>
    refine .inr ⟨by simpa using hcreate, ?_⟩
    split at h
    · next htaken =>
      split at h
      · cases h
      · next fresh hfresh =>
        obtain ⟨hadded, _⟩ := Prod.mk.inj h
        obtain ⟨s', hs', hpair⟩ := Option.map_eq_some_iff.mp hadded
        cases hpair
        obtain ⟨color, rfl⟩ := addFolder_some (Prod.ext hs' rfl)
        exact ⟨color, rfl, .inr ⟨by simpa using htaken, hfresh⟩⟩
    · next hfree =>
      obtain ⟨hadded, _⟩ := Prod.mk.inj h
      obtain ⟨s', hs', hpair⟩ := Option.map_eq_some_iff.mp hadded
      cases hpair
      obtain ⟨color, rfl⟩ := addFolder_some (Prod.ext hs' rfl)
      exact ⟨color, rfl, .inl ⟨by simpa using hfree, rfl⟩⟩

/-! ## The invariant -/

variable {store : Store}

theorem distinctIds_add (h : store.DistinctIds) {f : Folder} (hf : f.id ∉ store.folderIds) :
    Store.DistinctIds { store with folders := store.folders ++ [f] } := by
  unfold Store.DistinctIds Store.folderIds at *
  rw [List.map_append]
  refine List.Nodup.append h (List.nodup_singleton _) ?_
  intro id hid hmem
  rw [List.map_singleton, List.mem_singleton] at hmem
  exact hf (hmem ▸ hid)

theorem distinctIds_moveFiles (h : store.DistinctIds) (picked : FileEntry → Bool) (id : String) :
    (moveFiles store picked id).DistinctIds := h

theorem folderIds_renameFolder (store : Store) (renamed name : String) :
    (renameFolder store renamed name).folderIds = store.folderIds := by
  unfold renameFolder Store.folderIds
  rw [List.map_map]
  apply List.map_congr_left
  intro f _
  dsimp only [Function.comp]
  split <;> rfl

theorem distinctIds_renameFolder (h : store.DistinctIds) (id name : String) :
    (renameFolder store id name).DistinctIds := by
  unfold Store.DistinctIds
  rw [folderIds_renameFolder]
  exact h

theorem distinctIds_deleteFolder (h : store.DistinctIds) (id : String) :
    (deleteFolder store id).DistinctIds :=
  List.Nodup.sublist (List.Sublist.map _ List.filter_sublist) h

theorem distinctIds_createFolder {palette : List String} {src left : Sources} {s : Store}
    {name : String} {parent : Option String} (h : store.DistinctIds)
    (hc : createFolder palette src store name parent = (some s, left)) : s.DistinctIds := by
  obtain ⟨id, color, hid, rfl⟩ := createFolder_some hc
  exact distinctIds_add h (uniqueId?_not_mem hid)

theorem distinctIds_ensureTarget {palette : List String} {src left : Sources} {s : Store}
    {target : Destination} {create : Bool} {id : String} (h : store.DistinctIds)
    (hc : ensureTarget palette src store target create = (some (id, s), left)) : s.DistinctIds := by
  rcases ensureTarget_some hc with ⟨_, _, rfl⟩ | ⟨_, color, rfl, ⟨hfree, rfl⟩ | ⟨_, hid⟩⟩
  · exact h
  · exact distinctIds_add h hfree
  · exact distinctIds_add h (uniqueId?_not_mem hid)

theorem change_distinctIds (palette : List String) (src : Sources) (store : Store) (action : Action)
    (s : Store) (left : Sources) (hc : change palette src store action = (some s, left))
    (h : store.DistinctIds) : s.DistinctIds := by
  cases action with
  | createSimple name => exact distinctIds_createFolder h hc
  | createNested name parentId _ => exact distinctIds_createFolder h hc
  | moveFile fileName target create =>
    obtain ⟨hmoved, rfl⟩ := Prod.mk.inj hc
    obtain ⟨⟨id, ready⟩, hready, rfl⟩ := Option.map_eq_some_iff.mp hmoved
    exact distinctIds_moveFiles (distinctIds_ensureTarget h (Prod.ext hready rfl)) _ _
  | moveByExtension _ target create fileNames =>
    obtain ⟨hmoved, rfl⟩ := Prod.mk.inj hc
    obtain ⟨⟨id, ready⟩, hready, rfl⟩ := Option.map_eq_some_iff.mp hmoved
    exact distinctIds_moveFiles (distinctIds_ensureTarget h (Prod.ext hready rfl)) _ _
  | renameFolder id _ newName =>
    cases hc
    exact distinctIds_renameFolder h id newName
  | deleteFolder id _ =>
    cases hc
    exact distinctIds_deleteFolder h id
  | undo | reset | info | list | openFolder _ =>
    cases hc
    exact h

/-- **Folder identifiers stay distinct** in the tree and in every recorded tree, over every run of
intents and whatever the clock and the choice of colours do. -/
theorem run_distinctIds (palette : List String) (src : Sources) (intents : List Intent) (desk : Desk)
    (h : desk.All Store.DistinctIds) :
    (run palette intents (desk, src)).1.All Store.DistinctIds :=
  run_all Store.seed_distinctIds change_distinctIds palette intents (desk, src) h

/-- A clock that stands still, with the identifiers that it would give taken already and a
destination whose identifier exists. -/
theorem run_distinctIds_stopped_clock :
    let src : Sources := { clock := fun _ => some 7, colorFrom := fun _ colors => colors.head? }
    let store : Store := { folders := [⟨"a-7", "A", "", none⟩, ⟨"a-8", "B", "", some "a-7"⟩] }
    let desk : Desk := { store := store, history := ⟨2, [Store.seed], by decide⟩ }
    let intents : List Intent :=
      [⟨.createSimple "A", ""⟩, ⟨.createNested "7" "a" "", ""⟩,
       ⟨.moveFile "x" ⟨"a-7", "A"⟩ true, ""⟩, ⟨.undo, ""⟩, ⟨.createSimple "a", ""⟩]
    desk.All Store.DistinctIds ∧
      (run Palette.builtIn intents (desk, src)).1.All Store.DistinctIds := by
  intro src store desk intents
  have hstart : desk.All Store.DistinctIds := by decide
  exact ⟨hstart, run_distinctIds Palette.builtIn src intents desk hstart⟩

end Engine

end FolderTalk
