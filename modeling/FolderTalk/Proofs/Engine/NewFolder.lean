import FolderTalk.Proofs.Engine.References
import FolderTalk.Proofs.Engine.SiblingNames

/-!
# What is in a new folder

A new folder's identifier is chosen among those that no folder has. That some file or folder may
still refer to it, since the folder that had it was deleted along with the one around it, is not
looked at.

* `Store.HoldsJust` : a folder holds the given files and nothing else;
* `Adopts` : somebody whom the action is not about refers to the identifier already;
* `Changed.holdsJust_iff` : a new folder holds just the files that were moved there exactly if the
  action adopts nobody;
* `SeveredBy`, `obeyAll_lost` : whatever a tree refers to in vain, an earlier command of the run deleted
  the folder around it;
* `obeyAll_holdsJust_iff` : the two together, for every command of a run that adds a folder.
-/

namespace FolderTalk

/-- The action moves the file. -/
def Action.moves (a : Action) (f : FileEntry) : Bool := a.move?.any fun m => m.picks f

/-- The folder with this identifier has no subfolders, and of the files it has just the given ones. -/
structure Store.HoldsJust (s : Store) (id : String) (files : FileEntry → Bool) : Prop where
  noSubfolders : s.subfolders (some id) = []
  files : ∀ f ∈ s.files, f.folder = some id ↔ files f

instance (s : Store) (id : String) (files : FileEntry → Bool) : Decidable (s.HoldsJust id files) :=
  decidable_of_iff (s.subfolders (some id) = [] ∧ ∀ f ∈ s.files, f.folder = some id ↔ files f)
    ⟨fun h => ⟨h.1, h.2⟩, fun h => ⟨h.noSubfolders, h.files⟩⟩

namespace Engine

open Command (Grounded recognise recognise_grounded)

/-- A file that the action does not move, or a folder, refers to the identifier. -/
def Adopts (store : Store) (action : Action) (id : String) : Prop :=
  (∃ f ∈ store.files, f.folder = some id ∧ action.moves f = false) ∨
    ∃ f ∈ store.folders, f.parent = some id

/-- The command changes the tree, and the folder is new in it. -/
structure Adds (palette : List String) (p : Desk × Sources) (text : String) (f : Folder) : Prop where
  changes : (recognise text p.1.store).action.changesTree
  there : f ∈ (obey palette p text).1.store.folders
  new : f.id ∉ p.1.store.folderIds

instance (palette : List String) (p : Desk × Sources) (text : String) (f : Folder) :
    Decidable (Adds palette p text f) :=
  decidable_of_iff ((recognise text p.1.store).action.changesTree ∧
      f ∈ (obey palette p text).1.store.folders ∧ f.id ∉ p.1.store.folderIds)
    ⟨fun h => ⟨h.1, h.2.1, h.2.2⟩, fun h => ⟨h.changes, h.there, h.new⟩⟩

variable {palette : List String} {src : Sources} {store s : Store} {action : Action} {f : Folder}

/-! ## One change -/

/-- Which files are moved does not depend on where they are. -/
theorem moves_placed (action : Action) (f : FileEntry) (folder : Option String) :
    action.moves { f with folder := folder } = action.moves f := by
  cases action <;> rfl

theorem moves_of_move {m : Move} (h : action.move? = some m) : action.moves = m.picks := by
  funext f
  simp [Action.moves, h]

theorem moves_of_creation {name : String} {parent : Option String}
    (h : action.creation? = some (name, parent)) : action.moves = fun _ => false := by
  funext f
  cases action with
  | createSimple | createNested => rfl
  | _ => cases h

theorem moveFiles_none (store : Store) (id : String) : moveFiles store (fun _ => false) id = store := by
  simp [moveFiles]

/-- **A change that adds a folder** does so and moves files there, perhaps none. -/
theorem Changed.of_new (h : Changed src store action s) (hground : Grounded store action)
    (hf : f ∈ s.folders) (hnew : f.id ∉ store.folderIds) :
    ¬ store.Dangles f.parent ∧ s = moveFiles (store.withFolder f) action.moves f.id := by
  have hold : f ∉ store.folders := fun hold => hnew (Store.mem_folderIds_of_mem hold)
  cases h with
  | created name parent id color hcreation _ =>
    obtain rfl : f = ⟨id, name, color, parent⟩ := by
      simpa [Store.withFolder, hold] using hf
    refine ⟨parent_mem_of_creation hground hcreation, ?_⟩
    rw [moves_of_creation hcreation, moveFiles_none]
  | moved => exact absurd hf hold
  | movedAnew m id color hmove _ _ =>
    obtain rfl : f = ⟨id, m.target.name, color, none⟩ := by
      simpa [moveFiles, Store.withFolder, hold] using hf
    refine ⟨Store.not_dangles_none, ?_⟩
    rw [moves_of_move hmove]
  | renamed id _ name _ =>
    have hmem := Store.mem_folderIds_of_mem hf
    rw [folderIds_renameFolder] at hmem
    exact absurd hmem hnew
  | deleted id name _ => exact absurd (mem_deleteFolder.mp hf).1 hold
  | kept _ => exact absurd hf hold

theorem subfolders_withFolder_eq_nil_iff {id : String} (hparent : f.parent ≠ some id) :
    (store.withFolder f).subfolders (some id) = [] ↔ ∀ g ∈ store.folders, g.parent ≠ some id := by
  simp [Store.subfolders, Store.withFolder, hparent]

/-- **A new folder** holds just the files that are moved there, unless somebody is adopted. -/
theorem Changed.holdsJust_iff (h : Changed src store action s) (hground : Grounded store action)
    (hf : f ∈ s.folders) (hnew : f.id ∉ store.folderIds) :
    s.HoldsJust f.id action.moves ↔ ¬ Adopts store action f.id := by
  obtain ⟨hparent, rfl⟩ := h.of_new hground hf hnew
  have hnotOwn : f.parent ≠ some f.id := by
    intro hown
    rw [hown] at hparent
    exact hparent (Store.dangles_some_iff.mpr hnew)
  have hsubfolders : (store.withFolder f).subfolders (some f.id) = [] ↔
      ∀ g ∈ store.folders, g.parent ≠ some f.id := subfolders_withFolder_eq_nil_iff hnotOwn
  -- A moved file is where it belongs; any other one has stayed where it was.
  have hfile : ∀ old : FileEntry,
      let new := if action.moves old then { old with folder := some f.id } else old
      (new.folder = some f.id ↔ action.moves new) ↔
        ¬ (old.folder = some f.id ∧ action.moves old = false) := by
    intro old
    by_cases hmoved : action.moves old
    · simp [hmoved, moves_placed]
    · simp [hmoved]
  constructor
  · rintro ⟨hnone, hfiles⟩ (⟨old, hold, hadopted⟩ | ⟨g, hg, hg'⟩)
    · exact (hfile old).mp (hfiles _ (List.mem_map_of_mem hold)) hadopted
    · exact hsubfolders.mp hnone g hg hg'
  · intro hnobody
    refine ⟨hsubfolders.mpr fun g hg hg' => hnobody (.inr ⟨g, hg, hg'⟩), ?_⟩
    intro new hmem
    obtain ⟨old, hold, rfl⟩ := List.mem_map.mp hmem
    exact (hfile old).mpr fun hadopted => hnobody (.inl ⟨old, hold, hadopted⟩)

/-- A command that adds a folder makes the change that it asks for. -/
theorem Adds.changed {p : Desk × Sources} {text : String} (h : Adds palette p text f) :
    Changed p.2 p.1.store (recognise text p.1.store).action (obey palette p text).1.store := by
  have hthere := h.there
  unfold obey step at hthere ⊢
  rw [execute_of_changesTree _ _ _ _ h.changes] at hthere ⊢
  rcases hc : change palette p.2 p.1.store (recognise text p.1.store).action with ⟨_ | store, left⟩
  · rw [hc] at hthere
    exact absurd (Store.mem_folderIds_of_mem hthere) h.new
  · exact change_came hc

theorem Adopts.references {id : String} (h : Adopts store action id) : store.References id := by
  rcases h with ⟨g, hg, hfolder, -⟩ | hparent
  · exact .inl ⟨g, hg, hfolder⟩
  · exact .inr hparent

/-! ## Runs of commands -/

/-- Some command of the run deleted the folder around the one with this identifier. -/
def SeveredBy (palette : List String) (start : Desk × Sources) (texts : List String) (id : String) :
    Prop :=
  ∃ earlier text later, texts = earlier ++ text :: later ∧
    let store := (obeyAll palette earlier start).1.store
    Severs store (recognise text store).action id

theorem SeveredBy.append {start : Desk × Sources} {texts : List String} {id : String}
    (h : SeveredBy palette start texts id) (more : List String) :
    SeveredBy palette start (texts ++ more) id := by
  obtain ⟨earlier, text, later, rfl, hsevers⟩ := h
  exact ⟨earlier, text, later ++ more, by simp, hsevers⟩

theorem obeyAll_concat (palette : List String) (texts : List String) (text : String)
    (p : Desk × Sources) :
    obeyAll palette (texts ++ [text]) p = obey palette (obeyAll palette texts p) text :=
  List.foldl_concat ..

/-- **What a tree refers to in vain**, be it the tree at the end of a run or a recorded one, was in a
folder that some command of the run deleted. -/
theorem obeyAll_lost (palette : List String) {start : Desk × Sources}
    (hstart : start.1.All Store.Whole) (texts : List String) :
    (obeyAll palette texts start).1.All fun s =>
      ∀ id, s.References id → id ∉ s.folderIds → SeveredBy palette start texts id := by
  induction texts using List.reverseRecOn with
  | nil =>
    refine hstart.imp fun s hs id href hgone => ?_
    exact absurd (Store.whole_iff.mp hs id href) hgone
  | append_singleton texts text ih =>
    rw [obeyAll_concat]
    apply step_all_of_change
    · intro id href hgone
      exact absurd (Store.whole_iff.mp Store.seed_whole id href) hgone
    · intro s left hc id href hgone
      rcases (change_came hc).lost (recognise_grounded text _) href hgone with ⟨hbefore, hnone⟩ | hsevers
      · exact (ih.1 id hbefore hnone).append [text]
      · exact ⟨texts, text, [], rfl, hsevers⟩
    · exact ih.imp fun s hs id href hgone => (hs id href hgone).append [text]

/-- **A new folder holds just the files that the command moved there**, in every run of commands from
the seed tree, whatever the clock and the choice of colours do, exactly if nobody else refers to its
identifier already; and somebody does so only if an earlier command of the run deleted a folder
around one with this very identifier. -/
theorem obeyAll_holdsJust_iff (palette : List String) (src : Sources) (limit : History.Limit)
    (selected : Option String) (texts : List String) (text : String) (f : Folder) :
    let start : Desk := ⟨Store.seed, .empty limit.val limit.property, selected⟩
    let p := obeyAll palette texts (start, src)
    let action := (recognise text p.1.store).action
    Adds palette p text f →
      ((obey palette p text).1.store.HoldsJust f.id action.moves ↔ ¬ Adopts p.1.store action f.id) ∧
        (Adopts p.1.store action f.id → SeveredBy palette (start, src) texts f.id) := by
  intro start p action hadds
  constructor
  · exact hadds.changed.holdsJust_iff (recognise_grounded text _) hadds.there hadds.new
  · intro hadopts
    have hstart : (start, src).1.All Store.Whole := Desk.all_seed Store.seed_whole limit selected
    exact (obeyAll_lost palette hstart texts).1 f.id hadopts.references hadds.new

/-- Behind the deletion of a folder around another one, a new folder is as it should be. -/
theorem obeyAll_holdsJust_iff_fresh :
    let src : Sources := { clock := fun _ => some 1000, colorFrom := fun _ colors => colors.head? }
    let limit : History.Limit := .usual
    let start : Desk := ⟨Store.seed, .empty limit.val limit.property, none⟩
    let texts := ["create folder photos inside media", "move song.mp3 to photos", "delete media"]
    let p := obeyAll Palette.builtIn texts (start, src)
    let text := "move notes.txt to photos"
    let f : Folder := ⟨"photos", "Photos", "bg-blue-500", none⟩
    let action := (recognise text p.1.store).action
    Adds Palette.builtIn p text f ∧
      ((obey Palette.builtIn p text).1.store.HoldsJust f.id action.moves ↔
        ¬ Adopts p.1.store action f.id) ∧
      (obey Palette.builtIn p text).1.store.HoldsJust f.id action.moves := by
  intro src limit start texts p text f action
  obtain ⟨hadds, hholds⟩ : Adds Palette.builtIn p text f ∧
      (obey Palette.builtIn p text).1.store.HoldsJust f.id action.moves := by decide +kernel
  have h := obeyAll_holdsJust_iff Palette.builtIn src limit none texts text f hadds
  -- Unfolding more than names would run the commands.
  with_reducible exact ⟨hadds, h.1, hholds⟩

/-- A file and a folder that a deletion left behind come to be in a new folder, whose identifier is
what was typed. -/
theorem obeyAll_adopted :
    let src : Sources := { clock := fun _ => some 1000, colorFrom := fun _ colors => colors.head? }
    let start : Desk := ⟨Store.seed, .empty 20 (by decide), none⟩
    let texts := ["create folder photos inside media", "move song.mp3 to photos",
      "create folder trips inside photos", "delete media"]
    let p := obeyAll Palette.builtIn texts (start, src)
    let text := "move notes.txt to media photos-1000"
    let f : Folder := ⟨"media-photos-1000", "Media photos-1000", "bg-blue-500", none⟩
    let after := (obey Palette.builtIn p text).1.store
    Adds Palette.builtIn p text f ∧
      (after.filesIn f.id).map (·.name) = ["song.mp3", "notes.txt"] ∧
      (after.subfolders (some f.id)).map (·.name) = ["Trips"] ∧
      ¬ after.HoldsJust f.id (recognise text p.1.store).action.moves := by
  decide +kernel

end Engine

end FolderTalk
