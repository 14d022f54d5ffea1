import FolderTalk.Proofs.Engine.Changed
import Mathlib

/-!
# Folders form a forest

Deleting a folder leaves folders whose parent does not exist, and a move may create a folder under
just that identifier again. So it is not enough to look at the parents that exist: what a change
keeps is that the identifier of every folder goes on from its parent's, be the parent there or not.

* `NestedIds` : that invariant (`change_nestedIds`);
* `ParentLink`, `Forest` : the links from folders to their parents lead back to no folder, because
  identifiers get shorter along them (`forest_of_nestedIds`);
* `run_forest` : every tree that a run from the seed tree comes to is a forest.
-/

namespace FolderTalk

/-! ## Forests -/

namespace Store

/-- The identifier of a folder with a parent is the parent's, a hyphen, and something more. -/
def NestedIds (s : Store) : Prop :=
  ∀ f ∈ s.folders, ∀ p, f.parent = some p → ∃ rest, rest ≠ "" ∧ f.id = p ++ "-" ++ rest

/-- A folder with the first identifier has the second for its parent, which need not exist. -/
def ParentLink (s : Store) (id parent : String) : Prop :=
  ∃ f ∈ s.folders, f.id = id ∧ f.parent = some parent

/-- The parents of the folders make a forest. -/
structure Forest (s : Store) : Prop where
  /-- An identifier has at most one parent. -/
  single : ∀ id p q, s.ParentLink id p → s.ParentLink id q → p = q
  /-- Nobody comes back to where they started by following parents. -/
  acyclic : ∀ id, ¬ Relation.TransGen s.ParentLink id id

variable {s : Store}

theorem seed_nestedIds : seed.NestedIds := by
  have hnone : ∀ f ∈ seed.folders, f.parent = none := by decide
  intro f hf p hp
  rw [hnone f hf] at hp
  cases hp

theorem length_lt_of_parentLink (h : s.NestedIds) {id p : String} (hlink : s.ParentLink id p) :
    p.length < id.length := by
  obtain ⟨f, hf, rfl, hp⟩ := hlink
  obtain ⟨rest, _, hid⟩ := h f hf p hp
  have hhyphen : "-".length = 1 := by decide
  rw [hid, String.length_append, String.length_append]
  omega

theorem length_lt_of_transGen (h : s.NestedIds) {id p : String}
    (hlinks : Relation.TransGen s.ParentLink id p) : p.length < id.length := by
  induction hlinks with
  | single hlink => exact length_lt_of_parentLink h hlink
  | tail _ hlink ih => exact Nat.lt_trans (length_lt_of_parentLink h hlink) ih

theorem DistinctIds.eq_of_id_eq (h : s.DistinctIds) {f g : Folder} (hf : f ∈ s.folders)
    (hg : g ∈ s.folders) (hid : f.id = g.id) : f = g :=
  List.inj_on_of_nodup_map h hf hg hid

theorem forest_of_nestedIds (hnested : s.NestedIds) (hdistinct : s.DistinctIds) : s.Forest where
  single := by
    rintro id p q ⟨f, hf, hfid, hfp⟩ ⟨g, hg, hgid, hgq⟩
    obtain rfl := hdistinct.eq_of_id_eq hf hg (hfid.trans hgid.symm)
    exact Option.some.inj (hfp.symm.trans hgq)
  acyclic := by
    intro id hcycle
    exact Nat.lt_irrefl _ (length_lt_of_transGen hnested hcycle)

end Store

/-! ## The invariant -/

namespace Engine

theorem stampedId_idBase_some (name p : String) (stamp : Int) :
    ∃ rest, rest ≠ "" ∧ stampedId (idBase name (some p)) stamp = p ++ "-" ++ rest := by
  refine ⟨Name.slug name ++ "-" ++ toString stamp, ?_, ?_⟩
  · intro hempty
    have hlength := congrArg String.length hempty
    have hhyphen : "-".length = 1 := by decide
    rw [String.length_append, String.length_append, String.length_empty] at hlength
    omega
  · unfold stampedId idBase
    simp only [String.append_assoc]

theorem change_nestedIds (palette : List String) (src : Sources) (store : Store) (action : Action)
    (s : Store) (left : Sources) (hc : change palette src store action = (some s, left))
    (h : store.NestedIds) : s.NestedIds := by
  intro f hf p hp
  rcases (change_came hc).folder_came hf with ⟨g, hg, heq⟩ | ⟨_, hcreated⟩
  · rw [heq] at hp ⊢
    exact h g hg p hp
  · obtain ⟨stamp, hid⟩ := eq_stampedId_of_uniqueId? (hcreated p hp)
    rw [hid]
    exact stampedId_idBase_some f.name p stamp

/-- **The folders of every tree form a forest**, in the tree and in every recorded tree of a run of
intents from the seed tree, whatever the clock and the choice of colours do: the identifier of a
folder with a parent goes on from the parent's, so that no folder is above itself. -/
theorem run_forest (palette : List String) (src : Sources) (limit : History.Limit)
    (selected : Option String) (intents : List Intent) :
    let start : Desk := ⟨Store.seed, .empty limit.val limit.property, selected⟩
    (run palette intents (start, src)).1.All fun s => s.NestedIds ∧ s.Forest := by
  intro start
  have hstart : start.All fun s => s.NestedIds ∧ s.DistinctIds :=
    Desk.all_seed ⟨Store.seed_nestedIds, Store.seed_distinctIds⟩ limit selected
  have hrun := run_all ⟨Store.seed_nestedIds, Store.seed_distinctIds⟩
    (fun palette src store action s left hc h =>
      ⟨change_nestedIds palette src store action s left hc h.1,
        change_distinctIds palette src store action s left hc h.2⟩)
    palette intents (start, src) hstart
  exact hrun.imp fun s hs => ⟨hs.1, Store.forest_of_nestedIds hs.1 hs.2⟩

end Engine

end FolderTalk
