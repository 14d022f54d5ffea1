import FolderTalk.Proofs.Command.Grounded
import FolderTalk.Proofs.Engine.Forest
import Mathlib

/-!
# The open folder and the tree

The open folder and the tree are changed by different actions. A deletion closes the folder that it
is asked to delete, but takes its subfolders out of the tree as well; undo puts another tree in
place and leaves the open folder as it is.

* `Desk.SelectionLive` : no folder is open, or one of the tree;
* `Strands` : what takes the open folder out of the tree and leaves it open;
* `step_selectionLive` : nothing else that a command asks for does so.
-/

namespace FolderTalk

/-- No folder is open, or a folder of the tree is. -/
def Desk.SelectionLive (d : Desk) : Prop :=
  d.selected = none ∨ ∃ f ∈ d.store.folders, d.selected = some f.id

instance (d : Desk) : Decidable d.SelectionLive := inferInstanceAs (Decidable (_ ∨ _))

namespace Engine

/-- The action takes the open folder out of the tree and leaves it open: it deletes the parent, or it
brings back a tree without the folder. -/
inductive Strands (desk : Desk) : Action → Prop
  | parentDeleted {f : Folder} {id : String} (name : String) (hf : f ∈ desk.store.folders)
      (hopen : desk.selected = some f.id) (hparent : f.parent = some id) (hother : f.id ≠ id) :
      Strands desk (.deleteFolder id name)
  | undone {id : String} {older : List Store} {store : Store} (hopen : desk.selected = some id)
      (hs : desk.history.snapshots = older ++ [store]) (hgone : ∀ f ∈ store.folders, f.id ≠ id) :
      Strands desk .undo

variable {palette : List String} {src : Sources} {store s : Store} {action : Action} {desk : Desk}

/-- Every folder is still there after a change that is no deletion. -/
theorem Changed.folder_stays (h : Changed src store action s)
    (hkeeps : ∀ id name, action ≠ .deleteFolder id name) {f : Folder} (hf : f ∈ store.folders) :
    ∃ g ∈ s.folders, g.id = f.id := by
  cases h with
  | created => exact ⟨f, List.mem_append_left _ hf, rfl⟩
  | moved => exact ⟨f, hf, rfl⟩
  | movedAnew => exact ⟨f, List.mem_append_left _ hf, rfl⟩
  | renamed id =>
    refine ⟨_, List.mem_map_of_mem hf, ?_⟩
    split <;> rfl
  | deleted id name heq => exact absurd heq (hkeeps id name)
  | kept => exact ⟨f, hf, rfl⟩

/-- A deletion spares the open folder or closes it, unless it deletes the parent. -/
theorem selectionLive_delete (hids : desk.store.DistinctIds) (hlive : desk.SelectionLive)
    (id name : String) (history : History) :
    Desk.SelectionLive ⟨deleteFolder desk.store id, history,
        selectionAfter (.deleteFolder id name) desk.selected⟩ ↔
      ¬ Strands desk (.deleteFolder id name) := by
  rcases hlive with hnone | ⟨f, hf, hopen⟩
  · refine iff_of_true (.inl ?_) ?_
    · rw [hnone]
      rfl
    · rintro ⟨_, _, hopen, _⟩
      rw [hnone] at hopen
      cases hopen
  · by_cases hsame : f.id = id
    · refine iff_of_true (.inl ?_) ?_
      · rw [hopen, hsame, selectionAfter, if_pos (beq_self_eq_true _)]
      · rintro ⟨_, _, hopen', _, hother⟩
        rw [hopen, hsame] at hopen'
        exact hother (Option.some.inj hopen').symm
    · have hafter : selectionAfter (.deleteFolder id name) desk.selected = some f.id := by
        rw [hopen, selectionAfter, if_neg (by simpa using hsame)]
      rw [hafter]
      constructor
      · rintro (hnone | ⟨g, hg, hgid⟩) ⟨_, hf', hopen', hparent, _⟩
        · cases hnone
        · obtain ⟨hg, hspared⟩ := List.mem_filter.mp hg
          rw [hopen] at hopen'
          obtain rfl := hids.eq_of_id_eq hg hf'
            ((Option.some.inj hgid).symm.trans (Option.some.inj hopen'))
          simp [hparent] at hspared
      · intro hno
        have hparent : f.parent ≠ some id := fun hparent =>
          hno (.parentDeleted name hf hopen hparent hsame)
        refine .inr ⟨f, List.mem_filter.mpr ⟨hf, ?_⟩, rfl⟩
        rw [Bool.and_eq_true, bne_iff_ne, bne_iff_ne]
        exact ⟨hsame, hparent⟩

/-- No other change to the tree touches the open folder. -/
theorem selectionLive_changed (hlive : desk.SelectionLive) (h : Changed src desk.store action s)
    (hkeeps : ∀ id name, action ≠ .deleteFolder id name) (history : History) :
    Desk.SelectionLive ⟨s, history, selectionAfter action desk.selected⟩ := by
  have hselected : selectionAfter action desk.selected = desk.selected := by
    cases action with
    | deleteFolder id name => exact absurd rfl (hkeeps id name)
    | _ => rfl
  rw [hselected]
  rcases hlive with hnone | ⟨f, hf, hopen⟩
  · exact .inl hnone
  · obtain ⟨g, hg, hid⟩ := h.folder_stays hkeeps hf
    exact .inr ⟨g, hg, by rw [hid]; exact hopen⟩

theorem selectionLive_restored (hlive : desk.SelectionLive) {older : List Store} (history : History)
    (hs : desk.history.snapshots = older ++ [store]) :
    Desk.SelectionLive ⟨store, history, desk.selected⟩ ↔ ¬ Strands desk .undo := by
  constructor
  · rintro hlive' (_ | ⟨hopen, hs', hgone⟩)
    rw [hs] at hs'
    obtain ⟨rfl, hstore⟩ := List.append_inj' hs' rfl
    obtain rfl := List.singleton_inj.mp hstore
    rcases hlive' with hnone | ⟨f, hf, hopen'⟩
    · exact absurd (hopen.symm.trans hnone) nofun
    · exact hgone f hf (Option.some.inj (hopen'.symm.trans hopen))
  · intro hno
    rcases hlive with hnone | ⟨f, _, hopen⟩
    · exact .inl hnone
    · refine .inr ?_
      by_contra hgone
      refine hno (.undone hopen hs fun g hg hgid => hgone ⟨g, hg, ?_⟩)
      rw [hgid]
      exact hopen

/-- **The open folder stays a folder of the tree** whatever a command asks for, unless the command
deletes the folder's parent or brings back a tree without the folder. -/
theorem step_selectionLive (hids : desk.store.DistinctIds) (hlive : desk.SelectionLive)
    {intent : Intent} (hground : Command.Grounded desk.store intent.action) :
    (step palette (desk, src) intent).1.SelectionLive ↔ ¬ Strands desk intent.action := by
  unfold step
  have hcame := execute_came palette src intent desk
  generalize execute palette src intent desk = r at hcame
  cases hcame with
  | answered h =>
    refine iff_of_true hlive fun hstrands => ?_
    rcases h with h | h <;> rw [h] at hstrands <;> cases hstrands
  | opened id h =>
    rw [h] at hground ⊢
    cases hground with
    | openFolder hf => exact iff_of_true (.inr ⟨_, hf, rfl⟩) (fun hstrands => by cases hstrands)
  | nothingRecorded h hs =>
    refine iff_of_true hlive fun hstrands => ?_
    rw [h] at hstrands
    cases hstrands with
    | undone _ hs' => simp [hs] at hs'
  | restored older store h hs =>
    rw [h]
    exact selectionLive_restored hlive _ hs
  | afresh h =>
    rw [h]
    exact iff_of_true (.inl rfl) (fun hstrands => by cases hstrands)
  | failed left h hc =>
    -- A deletion draws nothing from outside, so it does not fail.
    refine iff_of_true hlive fun hstrands => ?_
    generalize intent.action = action at h hc hstrands
    cases hstrands with
    | parentDeleted => cases hc
    | undone => cases h
  | applied store left h hc =>
    generalize intent.action = action at h hc ⊢
    by_cases hdeletes : ∃ id name, action = .deleteFolder id name
    · obtain ⟨id, name, rfl⟩ := hdeletes
      cases hc
      exact selectionLive_delete hids hlive id name _
    · have hkeeps : ∀ id name, action ≠ .deleteFolder id name :=
        fun id name heq => hdeletes ⟨id, name, heq⟩
      refine iff_of_true (selectionLive_changed hlive (change_came hc) hkeeps _) fun hstrands => ?_
      cases hstrands with
      | parentDeleted => exact hkeeps _ _ rfl
      | undone => cases h

end Engine

end FolderTalk
