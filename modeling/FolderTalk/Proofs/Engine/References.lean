import FolderTalk.Proofs.Command.Grounded
import FolderTalk.Proofs.Engine.Forest

/-!
# References to folders

Files refer to the folder that they are in and folders to their parent. Nothing in the tree demands
that the folder exists, but commands look their operands up, so what they refer to is there; only a
deletion leaves references behind, since it takes the immediate subfolders along and looks no
further.

* `Store.Dangles`, `Store.Whole` : a reference to no folder, and a tree without any;
* `Folder.Inside` : a folder lies immediately inside another one;
* `Severed` : what a deletion makes of a whole tree, reference by reference;
* `Changed.lost` : an identifier is referred to in vain only if it was before, or if the action is
  the deletion of the parent of that very folder;
* `execute_recognised_references` : what a command does to the references of a whole tree.
-/

namespace FolderTalk

namespace Store

/-- The identifier is that of some file's folder or of some folder's parent. -/
def References (s : Store) (id : String) : Prop :=
  (∃ f ∈ s.files, f.folder = some id) ∨ ∃ f ∈ s.folders, f.parent = some id

/-- The reference is to an identifier that no folder has. -/
def Dangles (s : Store) (reference : Option String) : Prop :=
  ∃ id, reference = some id ∧ id ∉ s.folderIds

/-- No reference dangles. -/
structure Whole (s : Store) : Prop where
  files : ∀ f ∈ s.files, ¬ s.Dangles f.folder
  folders : ∀ f ∈ s.folders, ¬ s.Dangles f.parent

variable {s : Store} {id : String}

theorem not_dangles_none : ¬ s.Dangles none := by
  rintro ⟨id, h, -⟩
  cases h

theorem dangles_some_iff : s.Dangles (some id) ↔ id ∉ s.folderIds := by
  simp [Dangles]

instance (s : Store) : DecidablePred s.Dangles
  | none => isFalse not_dangles_none
  | some _ => decidable_of_iff _ dangles_some_iff.symm

instance (s : Store) : Decidable s.Whole :=
  decidable_of_iff ((∀ f ∈ s.files, ¬ s.Dangles f.folder) ∧ ∀ f ∈ s.folders, ¬ s.Dangles f.parent)
    ⟨fun h => ⟨h.1, h.2⟩, fun h => ⟨h.files, h.folders⟩⟩

theorem mem_folderIds : id ∈ s.folderIds ↔ ∃ f ∈ s.folders, f.id = id := List.mem_map

theorem mem_folderIds_of_mem {f : Folder} (hf : f ∈ s.folders) : f.id ∈ s.folderIds :=
  List.mem_map_of_mem hf

/-- A tree is whole if there is a folder for every identifier that it refers to. -/
theorem whole_iff : s.Whole ↔ ∀ id, s.References id → id ∈ s.folderIds := by
  constructor
  · intro h id href
    by_contra hgone
    rcases href with ⟨f, hf, hfolder⟩ | ⟨f, hf, hparent⟩
    · exact h.files f hf ⟨id, hfolder, hgone⟩
    · exact h.folders f hf ⟨id, hparent, hgone⟩
  · intro h
    refine ⟨fun f hf => ?_, fun f hf => ?_⟩
    · rintro ⟨id, hfolder, hgone⟩
      exact hgone (h id (.inl ⟨f, hf, hfolder⟩))
    · rintro ⟨id, hparent, hgone⟩
      exact hgone (h id (.inr ⟨f, hf, hparent⟩))

theorem seed_whole : seed.Whole := by decide

end Store

/-- The folder lies immediately inside the other; no folder lies inside itself. -/
structure Folder.Inside (f outer : Folder) : Prop where
  parent : f.parent = some outer.id
  other : f.id ≠ outer.id

instance (f outer : Folder) : Decidable (f.Inside outer) :=
  decidable_of_iff (f.parent = some outer.id ∧ f.id ≠ outer.id)
    ⟨fun h => ⟨h.1, h.2⟩, fun h => ⟨h.parent, h.other⟩⟩

namespace Engine

open Command (Grounded recognise recognise_grounded summary_of_delete)

variable {src : Sources} {store s : Store} {action : Action} {id : String}

/-! ## Deletions -/

/-- The action deletes the folder that the folder with this identifier lies in. -/
def Severs (store : Store) (action : Action) (id : String) : Prop :=
  ∃ outer ∈ store.folders, ∃ f ∈ store.folders,
    action = .deleteFolder outer.id outer.name ∧ f.Inside outer ∧ f.id = id

/-- What the deletion of a folder makes of a tree: the files of the folder become unorganized, all
others stay as they are, and those of its immediate subfolders are left with a reference to nothing;
the folder and these subfolders are gone, all others stay as they are, and those that have one of
these subfolders for their parent are left with a reference to nothing. -/
structure Severed (outer : Folder) (before after : Store) : Prop where
  files : List.Forall₂ (fun old new =>
      new = (if old.folder = some outer.id then { old with folder := none } else old) ∧
        (after.Dangles new.folder ↔
          ∃ f ∈ before.folders, f.Inside outer ∧ old.folder = some f.id))
    before.files after.files
  unchanged : after.folders.Sublist before.folders
  spared : ∀ f ∈ before.folders, f ∈ after.folders ↔ f ≠ outer ∧ ¬ f.Inside outer
  parents : ∀ g ∈ after.folders, after.Dangles g.parent ↔
    ∃ f ∈ before.folders, f.Inside outer ∧ g.parent = some f.id

theorem mem_deleteFolder {f : Folder} :
    f ∈ (deleteFolder store id).folders ↔ f ∈ store.folders ∧ f.id ≠ id ∧ f.parent ≠ some id := by
  simp [deleteFolder]

/-- Whoever goes with a folder but is not that folder lies inside it. -/
theorem inside_of_gone {outer : Folder} (hmem : id ∈ store.folderIds) (hother : id ≠ outer.id)
    (hgone : id ∉ (deleteFolder store outer.id).folderIds) :
    ∃ f ∈ store.folders, f.Inside outer ∧ f.id = id := by
  obtain ⟨f, hf, rfl⟩ := Store.mem_folderIds.mp hmem
  refine ⟨f, hf, ⟨?_, hother⟩, rfl⟩
  by_contra hparent
  exact hgone (Store.mem_folderIds_of_mem (mem_deleteFolder.mpr ⟨hf, hother, hparent⟩))

/-- With distinct identifiers nobody else has the identifier of a folder that is gone. -/
theorem gone_of_inside (hids : store.DistinctIds) {outer f : Folder} (hf : f ∈ store.folders)
    (hinside : f.Inside outer) : f.id ∉ (deleteFolder store outer.id).folderIds := by
  intro hmem
  obtain ⟨g, hg, hid⟩ := Store.mem_folderIds.mp hmem
  obtain ⟨hg, -, hparent⟩ := mem_deleteFolder.mp hg
  obtain rfl := hids.eq_of_id_eq hg hf hid
  exact hparent hinside.parent

/-- A reference that a deletion does not take back dangles behind it exactly if it is to a folder
inside the deleted one. -/
theorem dangles_deleteFolder_iff (hids : store.DistinctIds) {outer : Folder}
    {reference : Option String} (hwhole : ¬ store.Dangles reference)
    (hother : reference ≠ some outer.id) :
    (deleteFolder store outer.id).Dangles reference ↔
      ∃ f ∈ store.folders, f.Inside outer ∧ reference = some f.id := by
  constructor
  · rintro ⟨id, rfl, hgone⟩
    have hmem : id ∈ store.folderIds := by
      by_contra hmem
      exact hwhole ⟨id, rfl, hmem⟩
    have hne : id ≠ outer.id := fun h => hother (congrArg some h)
    obtain ⟨f, hf, hinside, rfl⟩ := inside_of_gone hmem hne hgone
    exact ⟨f, hf, hinside, rfl⟩
  · rintro ⟨f, hf, hinside, rfl⟩
    exact ⟨f.id, rfl, gone_of_inside hids hf hinside⟩

/-- **A deletion** severs exactly the references to the immediate subfolders. -/
theorem severed_deleteFolder (hids : store.DistinctIds) (hwhole : store.Whole) {outer : Folder}
    (houter : outer ∈ store.folders) : Severed outer store (deleteFolder store outer.id) where
  files := by
    apply List.forall₂_map_right_iff.mpr
    apply List.forall₂_same.mpr
    intro f hf
    by_cases hin : f.folder = some outer.id
    · simp only [hin, beq_self_eq_true, if_true]
      refine ⟨trivial, iff_of_false Store.not_dangles_none ?_⟩
      rintro ⟨g, -, hinside, hid⟩
      exact hinside.other (Option.some.inj hid).symm
    · simp only [beq_eq_false_iff_ne.mpr hin, hin, if_false, Bool.false_eq_true]
      exact ⟨trivial, dangles_deleteFolder_iff hids (hwhole.files f hf) hin⟩
  unchanged := List.filter_sublist
  spared f hf := by
    rw [mem_deleteFolder]
    constructor
    · rintro ⟨-, hid, hparent⟩
      exact ⟨fun h => hid (congrArg Folder.id h), fun hinside => hparent hinside.parent⟩
    · rintro ⟨hne, hinside⟩
      have hid : f.id ≠ outer.id := fun h => hne (hids.eq_of_id_eq hf houter h)
      exact ⟨hf, hid, fun hparent => hinside ⟨hparent, hid⟩⟩
  parents g hg := by
    obtain ⟨hg, -, hparent⟩ := mem_deleteFolder.mp hg
    exact dangles_deleteFolder_iff hids (hwhole.folders g hg) hparent

/-! ## All changes -/

theorem references_withFolder {f : Folder} (h : (store.withFolder f).References id) :
    store.References id ∨ f.parent = some id := by
  rcases h with hfile | ⟨g, hg, hparent⟩
  · exact .inl (.inl hfile)
  · rcases List.mem_append.mp hg with hg | hg
    · exact .inl (.inr ⟨g, hg, hparent⟩)
    · rw [List.mem_singleton.mp hg] at hparent
      exact .inr hparent

theorem references_moveFiles {picked : FileEntry → Bool} {target : String}
    (h : (moveFiles store picked target).References id) : store.References id ∨ id = target := by
  rcases h with ⟨f, hf, hfolder⟩ | hparent
  · obtain ⟨old, hold, rfl⟩ := List.mem_map.mp hf
    by_cases hpicked : picked old
    · simp only [hpicked, if_true] at hfolder
      exact .inr (Option.some.inj hfolder).symm
    · simp only [hpicked] at hfolder
      exact .inl (.inl ⟨old, hold, hfolder⟩)
  · exact .inl (.inr hparent)

theorem references_deleteFolder {deleted : String} (h : (deleteFolder store deleted).References id) :
    store.References id ∧ id ≠ deleted := by
  rcases h with ⟨f, hf, hfolder⟩ | ⟨f, hf, hparent⟩
  · obtain ⟨old, hold, rfl⟩ := List.mem_map.mp hf
    by_cases hin : old.folder = some deleted
    · simp [hin] at hfolder
    · simp only [beq_eq_false_iff_ne.mpr hin] at hfolder
      refine ⟨.inl ⟨old, hold, hfolder⟩, ?_⟩
      rintro rfl
      exact hin hfolder
  · obtain ⟨hf, -, hother⟩ := mem_deleteFolder.mp hf
    refine ⟨.inr ⟨f, hf, hparent⟩, ?_⟩
    rintro rfl
    exact hother hparent

theorem mem_folderIds_withFolder {f : Folder} :
    id ∈ (store.withFolder f).folderIds ↔ id ∈ store.folderIds ∨ id = f.id := by
  simp [Store.withFolder, Store.folderIds]

theorem references_renameFolder {renamed name : String}
    (h : (renameFolder store renamed name).References id) : store.References id := by
  rcases h with hfile | ⟨f, hf, hparent⟩
  · exact .inl hfile
  · obtain ⟨old, hold, rfl⟩ := List.mem_map.mp hf
    refine .inr ⟨old, hold, ?_⟩
    split at hparent <;> exact hparent

/-- The folder that a command creates something in is there. -/
theorem parent_mem_of_creation (hground : Grounded store action) {name : String}
    {parent : Option String} (h : action.creation? = some (name, parent)) :
    ¬ store.Dangles parent := by
  cases hground with
  | createNested hparent =>
    cases h
    exact fun hd => Store.dangles_some_iff.mp hd (Store.mem_folderIds_of_mem hparent)
  | createSimple =>
    cases h
    exact Store.not_dangles_none
  | _ => cases h

/-- The folder that a command moves to without creating it is there. -/
theorem target_mem_of_move (hground : Grounded store action) {m : Move}
    (h : action.move? = some m) (hold : m.create = false) : m.target.id ∈ store.folderIds := by
  have hdestination : ∀ phrase, (m.target, m.create) = Command.destination store phrase →
      m.target.id ∈ store.folderIds := by
    intro phrase hphrase
    cases hfound : store.findFolder phrase with
    | none =>
      rw [Command.destination_of_none hfound, Prod.mk.injEq] at hphrase
      rw [hphrase.2] at hold
      cases hold
    | some f =>
      rw [Command.destination_of_some hfound, Prod.mk.injEq] at hphrase
      rw [hphrase.1]
      exact Store.mem_folderIds_of_mem (Store.findFolder_mem hfound)
  cases hground with
  | moveByExtension _ phrase =>
    cases h
    exact hdestination phrase rfl
  | moveFile _ phrase =>
    cases h
    exact hdestination phrase rfl
  | _ => cases h

/-- **What is referred to in vain** after a change that a command asks for was so before, or it is a
folder that the command deletes together with the one around it. -/
theorem Changed.lost (h : Changed src store action s) (hground : Grounded store action)
    (href : s.References id) (hgone : id ∉ s.folderIds) :
    (store.References id ∧ id ∉ store.folderIds) ∨ Severs store action id := by
  cases h with
  | created name parent newId color hcreation _ =>
    rw [mem_folderIds_withFolder, not_or] at hgone
    rcases references_withFolder href with href | rfl
    · exact .inl ⟨href, hgone.1⟩
    · have hparent := parent_mem_of_creation hground hcreation
      exact absurd (Store.dangles_some_iff.mpr hgone.1) hparent
  | moved m hmove hold =>
    rcases references_moveFiles href with href | rfl
    · exact .inl ⟨href, hgone⟩
    · exact absurd (target_mem_of_move hground hmove hold) hgone
  | movedAnew m newId color hmove _ _ =>
    have hids : id ∉ (store.withFolder ⟨newId, m.target.name, color, none⟩).folderIds := hgone
    rw [mem_folderIds_withFolder, not_or] at hids
    rcases references_moveFiles href with href | rfl
    · rcases references_withFolder href with href | hparent
      · exact .inl ⟨href, hids.1⟩
      · cases hparent
    · exact absurd rfl hids.2
  | renamed renamed oldName name _ =>
    rw [folderIds_renameFolder] at hgone
    exact .inl ⟨references_renameFolder href, hgone⟩
  | deleted deleted name heq =>
    subst heq
    obtain ⟨hbefore, hother⟩ := references_deleteFolder href
    cases hground with
    | @deleteFolder outer houter =>
      by_cases hmem : id ∈ store.folderIds
      · obtain ⟨f, hf, hinside, hid⟩ := inside_of_gone hmem hother hgone
        exact .inr ⟨outer, houter, f, hf, rfl, hinside, hid⟩
      · exact .inl ⟨hbefore, hmem⟩
  | kept _ => exact .inl ⟨href, hgone⟩

/-! ## Commands on a whole tree -/

/-- A change that a command asks for keeps the tree whole unless it is a deletion. -/
theorem Changed.whole (h : Changed src store action s) (hground : Grounded store action)
    (hkeeps : ∀ id name, action ≠ .deleteFolder id name) (hwhole : store.Whole) : s.Whole := by
  apply Store.whole_iff.mpr
  intro id href
  by_contra hgone
  rcases h.lost hground href hgone with ⟨href, hgone⟩ | ⟨outer, -, -, -, hdelete, -, -⟩
  · exact hgone (Store.whole_iff.mp hwhole id href)
  · exact hkeeps _ _ hdelete

theorem execute_whole_tree (palette : List String) (src : Sources) {intent : Intent} {desk : Desk}
    (hground : Grounded desk.store intent.action) (hwhole : desk.store.Whole)
    (hundo : intent.action ≠ .undo) (hkeeps : ∀ id name, intent.action ≠ .deleteFolder id name) :
    (execute palette src intent desk).1.desk.store.Whole := by
  have hcame := execute_came palette src intent desk
  generalize execute palette src intent desk = r at hcame
  cases hcame with
  | restored _ _ h _ => exact absurd h hundo
  | afresh _ => exact Store.seed_whole
  | applied store left _ hc => exact (change_came hc).whole hground hkeeps hwhole
  | _ => exact hwhole

/-- A deletion that a command asks for is carried out, and its reply tells the number of files that
were in the folder, if there were any. -/
theorem execute_delete (palette : List String) (src : Sources) {intent : Intent} (desk : Desk)
    {id name : String} (h : intent.action = .deleteFolder id name) :
    (execute palette src intent desk).1.desk.store = deleteFolder desk.store id ∧
      (execute palette src intent desk).1.message =
        intent.summary ++ unlinkedNote (desk.store.filesIn id).length := by
  obtain ⟨action, summary⟩ := intent
  cases h
  exact ⟨rfl, rfl⟩

/-- **References of a whole tree** under any command that is understood against it and carried out on
it: unless the command deletes a folder or takes a change back, the tree stays whole; and if it
deletes a folder, then exactly the references to the immediate subfolders of that folder are severed,
and the reply tells how many files were in it. -/
theorem execute_recognised_references (palette : List String) (src : Sources) (text : String)
    (desk : Desk) (hids : desk.store.DistinctIds) (hwhole : desk.store.Whole) :
    let intent := recognise text desk.store
    let effect := (execute palette src intent desk).1
    (intent.action ≠ .undo → (∀ id name, intent.action ≠ .deleteFolder id name) →
        effect.desk.store.Whole) ∧
      ∀ id name, intent.action = .deleteFolder id name →
        ∃ outer ∈ desk.store.folders, outer.id = id ∧ outer.name = name ∧
          Severed outer desk.store effect.desk.store ∧
          let count := (desk.store.filesIn outer.id).length
          effect.message = "Deleted \"" ++ outer.name ++ "\" folder." ++
            if count = 0 then "" else " " ++ toString count ++ " file(s) moved to \"All Files\"." := by
  intro intent effect
  have hground : Grounded desk.store intent.action := recognise_grounded text desk.store
  refine ⟨execute_whole_tree palette src hground hwhole, fun id name hdelete => ?_⟩
  obtain ⟨hstore, hmessage⟩ := execute_delete palette src desk hdelete
  have hsummary : intent.summary = "Deleted \"" ++ name ++ "\" folder." := summary_of_delete hdelete
  rw [hdelete] at hground
  cases hground with
  | @deleteFolder outer houter =>
    refine ⟨outer, houter, rfl, rfl, ?_, ?_⟩
    · rw [hstore]
      exact severed_deleteFolder hids hwhole houter
    · rw [hmessage, hsummary, unlinkedNote]
      simp only [beq_iff_eq]

/-- Four folders, three of them a chain: the deletion of the first one takes the second one along and
leaves a file and the third one behind. -/
theorem execute_recognised_references_chain :
    let src : Sources := { clock := fun _ => some 1000, colorFrom := fun _ colors => colors.head? }
    let folder (id name : String) (parent : Option String) : Folder := ⟨id, name, "bg-blue-500", parent⟩
    let store : Store :=
      { files := [⟨1, "top.txt", .document, "1 KB", some "a"⟩, ⟨2, "child.txt", .document, "1 KB", some "b"⟩,
          ⟨3, "grandchild.txt", .document, "1 KB", some "c"⟩]
        folders := [folder "a" "Alpha" none, folder "b" "Beta" (some "a"),
          folder "c" "Gamma" (some "b"), folder "d" "Delta" none] }
    let desk : Desk := ⟨store, .empty 20 (by decide), none⟩
    let intent := recognise "delete alpha" store
    let effect := (execute Palette.builtIn src intent desk).1
    store.DistinctIds ∧ store.Whole ∧ intent.action = .deleteFolder "a" "Alpha" ∧
      (∃ outer ∈ store.folders, outer.id = "a" ∧ outer.name = "Alpha" ∧
        Severed outer store effect.desk.store) ∧
      effect.desk.store.folders.map (·.id) = ["c", "d"] ∧
      effect.desk.store.files.map (·.folder) = [none, some "b", some "c"] ∧
      effect.message = "Deleted \"Alpha\" folder. 1 file(s) moved to \"All Files\"." := by
  intro src folder store desk intent effect
  obtain ⟨hids, hwhole, hdelete, hfolders, hfiles, hmessage⟩ :
      store.DistinctIds ∧ store.Whole ∧ intent.action = .deleteFolder "a" "Alpha" ∧
        effect.desk.store.folders.map (·.id) = ["c", "d"] ∧
        effect.desk.store.files.map (·.folder) = [none, some "b", some "c"] ∧
        effect.message = "Deleted \"Alpha\" folder. 1 file(s) moved to \"All Files\"." := by
    decide +kernel
  obtain ⟨outer, houter, hid, hname, hsevered, -⟩ :=
    (execute_recognised_references Palette.builtIn src "delete alpha" desk hids hwhole).2 _ _ hdelete
  with_reducible
    exact ⟨hids, hwhole, hdelete, ⟨outer, houter, hid, hname, hsevered⟩, hfolders, hfiles, hmessage⟩

end Engine

end FolderTalk
