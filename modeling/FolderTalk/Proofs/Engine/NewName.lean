import FolderTalk.Proofs.Engine.MovedTwice

/-!
# What phrases find once a folder has a new name

A name is refused if a lookup of it finds another folder. That is one lookup on the tree before the
change, in three tiers that each go through all folders; what counts is what lookups find on the tree
after it, where the folder of that name takes part in every tier itself.

* `Store.Outranks` : what makes a lookup find a folder at the end of the list before those that are
  there already (`findFolder_withFolder_of_outranks`, `findFolder_withFolder_of_not_outranks`);
* `Gains`, `Named` : what a creation, and what a new name of any kind, make of a tree;
* `obey_finds_named` : a folder that was created at the top or renamed is what its name finds;
* `obey_createSimple_findFolder` : what a phrase found before a folder was created at the top it finds
  afterwards, unless it is the identifier of the new folder.
-/

namespace FolderTalk

open Text (toLower strip)
open Command (orElse_eq_some recognise recognise_grounded)

/-! ## Lookups beside a folder that comes last -/

namespace Store
variable {s : Store} {phrase name : String} {f g : Folder}

/-- The phrase finds the folder before all that are there: by its name, which none of them has, or by
its identifier, and then the phrase is neither name nor identifier of any of them. A part of an
identifier is not enough, since the folder comes last. -/
inductive Outranks (s : Store) (phrase : String) (f : Folder) : Prop
  | name (h : toLower f.name = strip (toLower phrase))
      (hno : ∀ g ∈ s.folders, toLower g.name ≠ strip (toLower phrase))
  | id (h : f.id = strip (toLower phrase))
      (hno : ∀ g ∈ s.folders, toLower g.name ≠ strip (toLower phrase))
      (hnoId : ∀ g ∈ s.folders, g.id ≠ strip (toLower phrase))

theorem Outranks.unnamed (h : s.Outranks phrase f) :
    ∀ g ∈ s.folders, toLower g.name ≠ strip (toLower phrase) := by
  cases h with
  | name _ hno => exact hno
  | id _ hno _ => exact hno

theorem findFolder_withFolder_of_outranks (h : s.Outranks phrase f) :
    (s.withFolder f).findFolder phrase = some f := by
  have hno : s.folders.find? (fun g => toLower g.name == strip (toLower phrase)) = none :=
    List.find?_eq_none.mpr (by simpa using h.unnamed)
  by_cases hname : toLower f.name = strip (toLower phrase)
  · refine orElse_eq_some.mpr (.inl ?_)
    rw [withFolder, List.find?_append, hno]
    simp [hname]
  · cases h with
    | name hname' _ => exact absurd hname' hname
    | id hid _ hnoId =>
      refine orElse_eq_some.mpr (.inr ⟨?_, orElse_eq_some.mpr (.inl ?_)⟩)
      · rw [withFolder, List.find?_append, hno]
        simp [hname]
      · rw [withFolder, List.find?_append, List.find?_eq_none.mpr (by simpa using hnoId)]
        simp [hid]

theorem findFolder_withFolder_of_not_outranks (h : s.findFolder phrase = some g)
    (hno : ¬ s.Outranks phrase f) : (s.withFolder f).findFolder phrase = some g := by
  unfold findFolder at h ⊢
  simp only [withFolder, List.find?_append]
  -- In the tier that found the folder it comes first, and the tiers above find nothing new.
  rcases orElse_eq_some.mp h with hfound | ⟨hnone, h⟩
  · rw [hfound]
    rfl
  have hname : (toLower f.name == strip (toLower phrase)) = false := by
    refine beq_eq_false_iff_ne.mpr fun hname => hno (.name hname ?_)
    simpa using hnone
  rcases orElse_eq_some.mp h with hfound | ⟨hnoneId, h⟩
  · rw [hnone, hfound]
    simp [hname]
  have hid : (f.id == strip (toLower phrase)) = false := by
    refine beq_eq_false_iff_ne.mpr fun hid => hno (.id hid ?_ ?_)
    · simpa using hnone
    · simpa using hnoneId
  rw [hnone, hnoneId, h]
  simp [hname, hid]

/-! ## Lookups after a new name -/

/-- A folder renamed to a name that found no other folder is what the name finds. -/
theorem findFolder_renameFolder (hids : s.DistinctIds) (hf : f ∈ s.folders)
    (hname : strip (toLower name) = toLower name)
    (hfree : ∀ g, s.findFolder name = some g → g.id = f.id) :
    (Engine.renameFolder s f.id name).findFolder name = some { f with name := name } := by
  obtain ⟨before, later, hfolders⟩ := List.append_of_mem hf
  have hother : ∀ g ∈ before, g.id ≠ f.id := by
    intro g hg hid
    rw [DistinctIds, folderIds, hfolders, List.map_append, List.nodup_append] at hids
    exact hids.2.2 g.id (List.mem_map_of_mem hg) f.id (by simp) hid
  -- Whoever had the name in front of the folder would have been found by it.
  have hunnamed : ∀ g ∈ before, toLower g.name ≠ toLower name := by
    intro g hg hsame
    cases hfirst : before.find? (fun g => toLower g.name == toLower name) with
    | none => exact List.find?_eq_none.mp hfirst g hg (by simpa using hsame)
    | some h =>
      refine hother h (List.mem_of_find?_eq_some hfirst) (hfree h (orElse_eq_some.mpr (.inl ?_)))
      rw [hname, hfolders, List.find?_append, hfirst]
      rfl
  refine orElse_eq_some.mpr (.inl ?_)
  rw [hname, Engine.renameFolder, hfolders, List.map_append, List.find?_append, List.map_cons,
    List.find?_eq_none.mpr]
  · simp
  · intro g hg
    obtain ⟨old, hold, rfl⟩ := List.mem_map.mp hg
    simpa [hother old hold] using hunnamed old hold

end Store

namespace Engine

variable {palette : List String} {src : Sources} {store s : Store} {action : Action}
  {p : Desk × Sources} {text name : String} {parent : Option String}

/-! ## Creations and new names -/

/-- The tree has one more folder, of the given name and parent, under an identifier that no other has
and that a stamp was added to. -/
structure Gains (store : Store) (name : String) (parent : Option String) (new : Folder) (s : Store) :
    Prop where
  tree : s = store.withFolder new
  name_eq : new.name = name
  parent_eq : new.parent = parent
  fresh : new.id ∉ store.folderIds
  stamped : ∃ stamp, new.id = stampedId (idBase name parent) stamp

theorem Changed.gains (h : Changed src store action s)
    (hcreation : action.creation? = some (name, parent)) :
    ∃ new, Gains store name parent new s := by
  cases h with
  | created name' parent' id color hcreation' hid =>
    cases hcreation.symm.trans hcreation'
    exact ⟨⟨id, name, color, parent⟩, rfl, rfl, rfl, uniqueId?_not_mem hid, eq_stampedId_of_uniqueId? hid⟩
  | moved m hm _ | movedAnew m _ _ hm _ _ =>
    cases action with
    | createSimple | createNested => cases hm
    | _ => cases hcreation
  | renamed _ _ _ heq | deleted _ _ heq =>
    subst heq
    cases hcreation
  | kept hkept =>
    cases action with
    | createSimple | createNested => cases hkept
    | _ => cases hcreation

theorem changesTree_of_creation (h : action.creation? = some (name, parent)) : action.changesTree := by
  cases action with
  | createSimple | createNested => rfl
  | _ => cases h

/-- A command to create a folder does so. -/
theorem Supplied.gains (h : Supplied palette p text)
    (hcreation : (recognise text p.1.store).action.creation? = some (name, parent)) :
    ∃ new, Gains p.1.store name parent new (obey palette p text).1.store :=
  (h.changed (changesTree_of_creation hcreation)).gains hcreation

theorem obey_of_not_supplied (h : ¬ Supplied palette p text) : (obey palette p text).1 = p.1 := by
  have hfails := (execute_whole palette p.2 (recognise text p.1.store) p.1).1 (not_not.mp h)
  exact congrArg Effect.desk hfails

/-- The folder is the one that the action created at the top or renamed, as it is now. -/
inductive Named (store : Store) : Action → Folder → Store → Prop
  | created (name : String) (new : Folder) (s : Store) (h : Gains store name none new s) :
      Named store (.createSimple name) new s
  | renamed (f : Folder) (hf : f ∈ store.folders) (oldName name : String) :
      Named store (.renameFolder f.id oldName name) { f with name := name }
        (renameFolder store f.id name)

/-! ## Found under its name -/

/-- The name of a new top-level folder finds it, if it found nothing before. -/
theorem Gains.findFolder_name {new : Folder} (h : Gains store name parent new s)
    (hname : strip (toLower name) = toLower name) (hnone : store.findFolder name = none) :
    s.findFolder name = some new := by
  rw [h.tree]
  refine Store.findFolder_withFolder_of_outranks (.name ?_ fun g hg hsame => ?_)
  · rw [h.name_eq, hname]
  · exact Store.findFolder_eq_none_iff.mp hnone g hg (.inl hsame)

/-- **A folder is found under its new name.** After a command that creates a folder at the top or
renames one, nothing that it draws failing, a lookup of the name finds this very folder, whatever
names and identifiers the others have. -/
theorem obey_finds_named (palette : List String) (p : Desk × Sources) (text name : String)
    (hids : p.1.store.DistinctIds)
    (hnames : (recognise text p.1.store).action = .createSimple name ∨
      ∃ id oldName, (recognise text p.1.store).action = .renameFolder id oldName name)
    (hgiven : Supplied palette p text) :
    ∃ f, Named p.1.store (recognise text p.1.store).action f (obey palette p text).1.store ∧
      f.name = name ∧ (obey palette p text).1.store.findFolder name = some f := by
  have hground := recognise_grounded text p.1.store
  rcases hnames with hcreate | ⟨id, oldName, hrename⟩
  · have hcreation : (recognise text p.1.store).action.creation? = some (name, none) := by
      rw [hcreate]
      rfl
    obtain ⟨new, hgains⟩ := hgiven.gains hcreation
    rw [hcreate] at hground ⊢
    cases hground with
    | createSimple phrase hfree =>
      refine ⟨new, .created _ new _ hgains, hgains.name_eq, ?_⟩
      exact hgains.findFolder_name (Name.strip_toLower_displayForm phrase) hfree
  · have hchanged := hgiven.changed (by rw [hrename]; rfl)
    rw [hrename] at hground hchanged ⊢
    generalize (obey palette p text).1.store = s at hchanged
    cases hchanged with
    | renamed _ _ _ heq =>
      cases heq
      cases hground with
      | renameFolder hf phrase hfree =>
        refine ⟨_, .renamed _ hf _ _, rfl, ?_⟩
        exact Store.findFolder_renameFolder hids hf (Name.strip_toLower_displayForm phrase) hfree
    | created _ _ _ _ hother _ | moved _ hother _ | movedAnew _ _ _ hother _ _ => cases hother
    | deleted _ _ hother | kept hother => cases hother

/-- A folder whose new name has been its identifier all along, behind one with the name in its
identifier. -/
theorem obey_finds_named_identifier :
    let src : Sources := { clock := fun _ => some 1000, colorFrom := fun _ colors => colors.head? }
    let store : Store :=
      { folders := [⟨"images-old", "Old", "", none⟩, ⟨"images", "Pictures", "", none⟩] }
    let p : Desk × Sources := (⟨store, .empty 20 (by decide), none⟩, src)
    let text := "rename pictures to images"
    p.1.store.DistinctIds ∧
      (recognise text p.1.store).action = .renameFolder "images" "Pictures" "Images" ∧
      Supplied Palette.builtIn p text ∧
      ∃ f, Named p.1.store (recognise text p.1.store).action f (obey Palette.builtIn p text).1.store ∧
        f.name = "Images" ∧ (obey Palette.builtIn p text).1.store.findFolder "Images" = some f := by
  intro src store p text
  have hids : p.1.store.DistinctIds := by decide
  have hrename : (recognise text p.1.store).action = .renameFolder "images" "Pictures" "Images" := by
    decide +kernel
  have hgiven : Supplied Palette.builtIn p text := by decide +kernel
  exact ⟨hids, hrename, hgiven,
    obey_finds_named Palette.builtIn p text "Images" hids (.inr ⟨_, _, hrename⟩) hgiven⟩

/-! ## What the other phrases find -/

/-- A new folder comes first only for its own identifier, if its name found nothing before and the
phrase did find something. -/
theorem Gains.outranks_iff {new f : Folder} {phrase : String} (h : Gains store name parent new s)
    (hname : strip (toLower name) = toLower name) (hnone : store.findFolder name = none)
    (hfound : store.findFolder phrase = some f) :
    store.Outranks phrase new ↔
      strip (toLower phrase) = new.id ∧ ∀ g ∈ store.folders, toLower g.name ≠ new.id := by
  constructor
  · intro houtranks
    cases houtranks with
    | name hsame _ =>
      rw [h.name_eq, ← hname] at hsame
      have hanswers := Store.answersTo_of_findFolder hfound
      rw [Folder.AnswersTo, ← hsame] at hanswers
      exact absurd hanswers (Store.findFolder_eq_none_iff.mp hnone f (Store.findFolder_mem hfound))
    | id hid hno _ => exact ⟨hid.symm, hid ▸ hno⟩
  · rintro ⟨hid, hno⟩
    refine .id hid.symm (hid ▸ hno) fun g hg hsame => h.fresh ?_
    rw [← hid, ← hsame]
    exact List.mem_map_of_mem hg

/-- **References stay what they are** when a folder is created at the top. If something that the
creation draws fails then nothing changes. Otherwise there is one new folder, and a phrase that found
a folder before finds the same one afterwards, unless it is the identifier of the new folder; and then
it does so exactly if some folder has this identifier for its name. -/
theorem obey_createSimple_findFolder (palette : List String) (p : Desk × Sources) (text name : String)
    (hcreate : (recognise text p.1.store).action = .createSimple name) :
    (¬ Supplied palette p text → (obey palette p text).1 = p.1) ∧
    (Supplied palette p text → ∃ new, Gains p.1.store name none new (obey palette p text).1.store ∧
      ∀ phrase f, p.1.store.findFolder phrase = some f →
        (strip (toLower phrase) ≠ new.id →
          (obey palette p text).1.store.findFolder phrase = some f) ∧
        (strip (toLower phrase) = new.id →
          ((obey palette p text).1.store.findFolder phrase = some f ↔
            ∃ g ∈ p.1.store.folders, toLower g.name = new.id))) := by
  refine ⟨obey_of_not_supplied, fun hgiven => ?_⟩
  have hcreation : (recognise text p.1.store).action.creation? = some (name, none) := by
    rw [hcreate]
    rfl
  obtain ⟨new, hgains⟩ := hgiven.gains hcreation
  refine ⟨new, hgains, fun phrase f hfound => ?_⟩
  obtain ⟨hname, hnone⟩ : strip (toLower name) = toLower name ∧ p.1.store.findFolder name = none := by
    have hground := recognise_grounded text p.1.store
    rw [hcreate] at hground
    cases hground with
    | createSimple phrase hfree => exact ⟨Name.strip_toLower_displayForm phrase, hfree⟩
  have hfirst := hgains.outranks_iff hname hnone hfound
  rw [hgains.tree]
  constructor
  · intro hother
    exact Store.findFolder_withFolder_of_not_outranks hfound fun h => hother (hfirst.mp h).1
  · intro hid
    constructor
    · intro hstill
      by_contra hno
      have hnew := Store.findFolder_withFolder_of_outranks (hfirst.mpr ⟨hid, by simpa using hno⟩)
      obtain rfl := Option.some.inj (hnew.symm.trans hstill)
      exact hgains.fresh (List.mem_map_of_mem (Store.findFolder_mem hfound))
    · rintro ⟨g, hg, hsame⟩
      exact Store.findFolder_withFolder_of_not_outranks hfound fun h => (hfirst.mp h).2 g hg hsame

/-- A phrase that is part of the identifier of an old folder and of the new one. -/
theorem obey_createSimple_findFolder_part :
    let src : Sources := { clock := fun _ => some 1000, colorFrom := fun _ colors => colors.head? }
    let store : Store := { folders := [⟨"my-tri", "Old", "", none⟩, ⟨"x", "Trips-1000", "", none⟩] }
    let p : Desk × Sources := (⟨store, .empty 20 (by decide), none⟩, src)
    let text := "create folder called trips"
    (recognise text p.1.store).action = .createSimple "Trips" ∧ Supplied Palette.builtIn p text ∧
      p.1.store.findFolder "Tri" = some ⟨"my-tri", "Old", "", none⟩ ∧
      (obey Palette.builtIn p text).1.store.folderIds = ["my-tri", "x", "trips-1000"] ∧
      (obey Palette.builtIn p text).1.store.findFolder "Tri" = some ⟨"my-tri", "Old", "", none⟩ := by
  intro src store p text
  have hcreate : (recognise text p.1.store).action = .createSimple "Trips" := by decide +kernel
  have hgiven : Supplied Palette.builtIn p text := by decide +kernel
  have hfound : p.1.store.findFolder "Tri" = some ⟨"my-tri", "Old", "", none⟩ := by decide +kernel
  have hids : (obey Palette.builtIn p text).1.store.folderIds = ["my-tri", "x", "trips-1000"] := by
    decide +kernel
  obtain ⟨new, hgains, hfinds⟩ :=
    (obey_createSimple_findFolder Palette.builtIn p text "Trips" hcreate).2 hgiven
  have hnew : new.id ∈ (obey Palette.builtIn p text).1.store.folderIds := by
    rw [hgains.tree, Store.withFolder, Store.folderIds, List.map_append]
    simp
  have hother : strip (toLower "Tri") ≠ new.id := by
    rw [hids] at hnew
    have hnone : strip (toLower "Tri") ∉ ["my-tri", "x", "trips-1000"] := by decide +kernel
    exact fun hsame => hnone (hsame ▸ hnew)
  exact ⟨hcreate, hgiven, hfound, hids, (hfinds "Tri" _ hfound).1 hother⟩

end Engine

end FolderTalk
