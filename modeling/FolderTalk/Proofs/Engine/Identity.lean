import FolderTalk.Proofs.Command.Destructive
import FolderTalk.Proofs.Engine.SiblingNames

/-!
# Folders one can tell from nothing

Views take an empty identifier for no folder at all, so a folder is of use only while its identifier is
not empty, and a person can point to it only by a name that shows. Names come from phrases that may be
nothing but white space between quotes, and whether such a phrase is refused depends on the folders
that are there.

* `Visible` : a text that does not consist of white space. The display form of a visible phrase is
  visible and its slug is not empty; the display form of any other phrase is empty;
* `Store.Identified` : every folder has an identifier and a visible name, and no file is in a folder of
  the empty identifier. In such a tree the unorganized files are those that name no folder
  (`Store.Identified.unset_iff`, `Store.Identified.not_mem_filesIn`);
* `NamesBlankly` : a command is carried out that gives a folder a name that does not show, with the
  phrases that this can come from (`NamesBlankly.phrase`);
* `obeyAll_identified` : every tree that commands lead to is identified, exactly as long as no command
  names a folder blankly.
-/

namespace FolderTalk

open Text

/-! ## Texts that show -/

/-- The text does not consist of white space. -/
def Visible (s : String) : Prop := ∃ c ∈ s.toList, isBlank c = false

instance : DecidablePred Visible := fun s => inferInstanceAs (Decidable (∃ c ∈ s.toList, _))

theorem not_visible_empty : ¬ Visible "" := fun ⟨_, hc, _⟩ => absurd hc (by simp)

/-- What is left of a visible text begins with a character that shows. -/
theorem Visible.trim_eq_cons {s : String} (h : Visible s) :
    ∃ c cs, trim s.toList = c :: cs ∧ isBlank c = false := by
  obtain ⟨c, hc, hvisible⟩ := h
  cases hs : trim s.toList with
  | cons d ds => exact ⟨d, ds, rfl, (trimmed_trim s.toList).first d (by rw [hs]; rfl)⟩
  | nil =>
    have hstart : trimStart s.toList = [] := by
      rw [trim, trimEnd, List.reverse_eq_nil_iff] at hs
      cases hleft : trimStart s.toList with
      | nil => rfl
      | cons d ds =>
        have hd := first_trimStart s.toList d (by rw [hleft]; rfl)
        have hblank := List.dropWhile_eq_nil_iff.mp hs d (by rw [hleft]; simp)
        rw [hd] at hblank
        cases hblank
    have hblank := List.dropWhile_eq_nil_iff.mp hstart c hc
    rw [hvisible] at hblank
    cases hblank

theorem trim_eq_nil_of_not_visible {s : String} (h : ¬ Visible s) : trim s.toList = [] := by
  have hblank : ∀ c ∈ s.toList, isBlank c := by simpa [Visible] using h
  rw [trim, trimStart, List.dropWhile_eq_nil_iff.mpr hblank]
  rfl

theorem not_visible_toLower {s : String} (h : ¬ Visible s) : ¬ Visible (toLower s) := by
  have hblank : ∀ c ∈ s.toList, isBlank c := by simpa [Visible] using h
  have hlower : ∀ (t before : List Char), (∀ c ∈ t, isBlank c) →
      ∀ d ∈ lowerFrom before t, isBlank d := by
    intro t
    induction t with
    | nil =>
      intro before _ d hd
      cases hd
    | cons c cs ih =>
      intro before ht d hd
      obtain ⟨hc, hcs⟩ := List.forall_mem_cons.mp ht
      obtain ⟨piece, _, hpiece, heq⟩ := lowerFrom_cons before cs c
      rw [heq] at hd
      rcases List.mem_append.mp hd with hd | hd
      · exact (hpiece d hd).trans hc
      · exact ih _ hcs d hd
  rintro ⟨c, hc, hvisible⟩
  rw [toLower, String.toList_ofList] at hc
  rw [hlower s.toList [] hblank c hc] at hvisible
  cases hvisible

/-- A phrase that does not show is looked up as nothing. -/
theorem strip_toLower_of_not_visible {s : String} (h : ¬ Visible s) : strip (toLower s) = "" := by
  rw [strip, trim_eq_nil_of_not_visible (not_visible_toLower h), String.ofList_nil]

namespace Name

/-- The display form of a visible phrase shows. -/
theorem visible_displayForm {s : String} (h : Visible s) : Visible (displayForm s) := by
  obtain ⟨c, cs, htrim, hc⟩ := h.trim_eq_cons
  obtain ⟨d, hd⟩ := List.exists_mem_of_ne_nil _ (upperChar_ne_nil c)
  refine ⟨d, ?_, (isBlank_upperChar hd).trans hc⟩
  rw [displayForm, String.toList_ofList, htrim, squeeze, squeezeFrom_cons_of_not_blank hc]
  exact List.mem_append_left _ hd

theorem displayForm_of_not_visible {s : String} (h : ¬ Visible s) : displayForm s = "" := by
  rw [displayForm, trim_eq_nil_of_not_visible h]
  rfl

theorem visible_displayForm_iff {s : String} : Visible (displayForm s) ↔ Visible s := by
  refine ⟨fun h => ?_, visible_displayForm⟩
  by_contra hs
  rw [displayForm_of_not_visible hs] at h
  exact not_visible_empty h

/-- The slug of a visible phrase is not empty. -/
theorem slug_ne_empty {s : String} (h : Visible s) : slug s ≠ "" := by
  obtain ⟨c, cs, htrim, hc⟩ := h.trim_eq_cons
  obtain ⟨piece, hne, hpiece, hlower⟩ := lowerFrom_cons [] cs c
  cases piece with
  | nil => exact absurd rfl hne
  | cons d ds =>
    have hd : isBlank d = false := (hpiece d (by simp)).trans hc
    intro hslug
    have hlist := congrArg String.toList hslug
    rw [slug, String.toList_ofList, htrim, lower, hlower, squeeze, List.cons_append,
      squeezeFrom_cons_of_not_blank hd, String.toList_empty] at hlist
    cases hlist

end Name

/-! ## Trees whose folders can be told from nothing -/

/-- The folder has an identifier and a name that shows. -/
structure Folder.Identified (f : Folder) : Prop where
  id_ne : f.id ≠ ""
  name_visible : Visible f.name

/-- Every folder is identified, and no file is in a folder of the empty identifier. -/
structure Store.Identified (s : Store) : Prop where
  folders : ∀ f ∈ s.folders, f.Identified
  files : ∀ f ∈ s.files, f.folder ≠ some ""

theorem Store.seed_identified : Store.seed.Identified where
  folders := by
    intro f hf
    simp only [Store.seed, Store.seedFolders, List.mem_cons, List.not_mem_nil, or_false] at hf
    rcases hf with rfl | rfl | rfl
    · exact ⟨by decide, 'I', by decide, by decide⟩
    · exact ⟨by decide, 'D', by decide, by decide⟩
    · exact ⟨by decide, 'M', by decide, by decide⟩
  files := by decide

namespace Store

variable {s : Store}

/-- A file's reference counts as unset exactly if there is none. -/
theorem Identified.unset_iff (h : s.Identified) {f : FileEntry} (hf : f ∈ s.files) :
    isUnset f.folder ↔ f.folder = none := by
  cases hfolder : f.folder with
  | none => exact iff_of_true rfl rfl
  | some id =>
    have hne : id ≠ "" := fun hid => h.files f hf (hfolder.trans (congrArg some hid))
    simp [isUnset, hne]

/-- An unorganized file is in no folder of the tree. -/
theorem Identified.not_mem_filesIn (h : s.Identified) {f : FileEntry}
    (hf : f ∈ s.unorganizedFiles) (g : Folder) : f ∉ s.filesIn g.id := by
  obtain ⟨hmem, hunset⟩ := List.mem_filter.mp hf
  intro hin
  have hfolder := (List.mem_filter.mp hin).2
  rw [(h.unset_iff hmem).mp hunset] at hfolder
  cases hfolder

/-! ## Phrases without a visible character -/

/-- Unless the tree has no folders, a lookup of such a phrase finds one. -/
theorem findFolder_ne_none {phrase : String} (hphrase : ¬ Visible phrase) (h : s.folders ≠ []) :
    s.findFolder phrase ≠ none := by
  obtain ⟨f, hf⟩ := List.exists_mem_of_ne_nil _ h
  have hsome : (s.folders.find? fun f =>
      isStretch (strip (toLower phrase)).toList f.id.toList).isSome := by
    rw [List.find?_isSome]
    refine ⟨f, hf, ?_⟩
    rw [strip_toLower_of_not_visible hphrase, String.toList_empty]
    cases f.id.toList <;> rfl
  unfold findFolder
  dsimp only
  intro hnone
  rw [← Option.not_isSome_iff_eq_none, Command.isSome_orElse, Command.isSome_orElse, hsome] at hnone
  simp at hnone

end Store

/-! ## Commands that name a folder -/

/-- The name that an action gives to a folder, should it do so. -/
def Action.givenName? : Action → Option String
  | .createSimple name | .createNested name _ _ | .renameFolder _ _ name => some name
  | .moveFile _ target true | .moveByExtension _ target true _ => some target.name
  | _ => none

theorem Action.givenName?_of_creation {action : Action} {name : String} {parent : Option String}
    (h : action.creation? = some (name, parent)) : action.givenName? = some name := by
  cases action with
  | createSimple _ | createNested _ _ _ =>
    cases h
    rfl
  | _ => cases h

theorem Action.givenName?_of_move {action : Action} {m : Move} (h : action.move? = some m)
    (hnew : m.create = true) : action.givenName? = some m.target.name := by
  cases action with
  | moveFile _ _ create | moveByExtension _ _ create _ =>
    cases h
    obtain rfl : create = true := hnew
    rfl
  | _ => cases h

theorem Action.changesTree_of_givenName {action : Action} {name : String}
    (h : action.givenName? = some name) : action.changesTree := by
  cases action with
  | createSimple _ | createNested _ _ _ | renameFolder _ _ _ | moveFile _ _ _
  | moveByExtension _ _ _ _ => rfl
  | _ => cases h

namespace Command

variable {store : Store}

theorem eq_of_createNested {newPhrase parentPhrase name parentId parentName : String}
    (h : (createNested store newPhrase parentPhrase).action = .createNested name parentId parentName) :
    name = Name.displayForm newPhrase := by
  unfold createNested at h
  dsimp only at h
  split at h
  · cases h
  · split at h
    · cases h
    · cases h
      rfl

theorem free_of_createSimple {phrase name : String}
    (h : (createSimple store phrase).action = .createSimple name) :
    store.findFolder name = none ∧ name = Name.displayForm phrase := by
  unfold createSimple at h
  dsimp only at h
  split at h
  · cases h
  · next hfree =>
    cases h
    exact ⟨Option.not_isSome_iff_eq_none.mp hfree, rfl⟩

end Command

namespace Engine

variable {palette : List String} {src left : Sources} {store s : Store} {action : Action}

/-- The command is carried out and gives a folder a name that does not show. -/
structure NamesBlankly (palette : List String) (p : Desk × Sources) (text : String) : Prop where
  gives : ∃ name, (Command.recognise text p.1.store).action.givenName? = some name ∧ ¬ Visible name
  carriedOut : (change palette p.2 p.1.store (Command.recognise text p.1.store).action).1.isSome

/-! ### What the new identifiers are -/

theorem stampedId_ne_empty (base : String) (stamp : Int) : stampedId base stamp ≠ "" := by
  intro h
  have hlist := congrArg String.toList h
  simp [stampedId] at hlist

theorem uniqueId?_ne_empty {base id : String} (h : uniqueId? src store base = some id) : id ≠ "" := by
  obtain ⟨stamp, rfl⟩ := eq_stampedId_of_uniqueId? h
  exact stampedId_ne_empty base stamp

/-- A move goes to a folder of the tree, or it creates one whose slug and name are of the phrase. -/
theorem target_came {m : Move} (hground : Command.Grounded store action)
    (hm : action.move? = some m) :
    (m.create = false ∧ ∃ f ∈ store.folders, m.target.id = f.id) ∨
      (m.create = true ∧ ∃ phrase, store.findFolder phrase = none ∧
        m.target.id = Name.slug phrase ∧ m.target.name = Name.displayForm phrase) := by
  have hdestination : ∀ phrase, (m.target, m.create) = Command.destination store phrase →
      (m.create = false ∧ ∃ f ∈ store.folders, m.target.id = f.id) ∨
      (m.create = true ∧ ∃ phrase, store.findFolder phrase = none ∧
        m.target.id = Name.slug phrase ∧ m.target.name = Name.displayForm phrase) := by
    intro phrase htarget
    cases hfound : store.findFolder phrase with
    | some f =>
      rw [Command.destination_of_some hfound, Prod.mk.injEq] at htarget
      exact .inl ⟨htarget.2, f, Store.findFolder_mem hfound, by rw [htarget.1]⟩
    | none =>
      rw [Command.destination_of_none hfound, Prod.mk.injEq] at htarget
      exact .inr ⟨htarget.2, phrase, hfound, by rw [htarget.1], by rw [htarget.1]⟩
  cases hground with
  | moveByExtension _ phrase | moveFile _ phrase =>
    cases hm
    exact hdestination phrase rfl
  | _ => cases hm

/-! ### What a change keeps -/

theorem identified_withFolder {f : Folder} (h : store.Identified) (hf : f.Identified) :
    (store.withFolder f).Identified where
  folders := fun _ hg => (List.mem_append.mp hg).elim (h.folders _)
    fun hnew => List.mem_singleton.mp hnew ▸ hf
  files := h.files

theorem identified_moveFiles (h : store.Identified) (picks : FileEntry → Bool) {id : String}
    (hid : id ≠ "") : (moveFiles store picks id).Identified where
  folders := h.folders
  files := by
    intro f hf
    obtain ⟨g, hg, rfl⟩ := List.mem_map.mp hf
    split
    · simpa using hid
    · exact h.files g hg

theorem identified_renameFolder (h : store.Identified) (id : String) {name : String}
    (hname : Visible name) : (renameFolder store id name).Identified where
  folders := by
    intro f hf
    obtain ⟨g, hg, rfl⟩ := List.mem_map.mp hf
    split
    · exact ⟨(h.folders g hg).id_ne, hname⟩
    · exact h.folders g hg
  files := h.files

theorem identified_deleteFolder (h : store.Identified) (id : String) :
    (deleteFolder store id).Identified where
  folders := fun f hf => h.folders f (List.mem_of_mem_filter hf)
  files := by
    intro f hf
    obtain ⟨g, hg, rfl⟩ := List.mem_map.mp hf
    split
    · exact Option.some_ne_none _ |>.symm
    · exact h.files g hg

/-- **A change that a command asks for** keeps every folder identified, as long as the name that it
gives shows. -/
theorem Changed.identified (hchanged : Changed src store action s)
    (hground : Command.Grounded store action) (h : store.Identified)
    (hname : ∀ name, action.givenName? = some name → Visible name) : s.Identified := by
  cases hchanged with
  | created name parent id color hcreation hid =>
    refine identified_withFolder h ⟨uniqueId?_ne_empty hid, ?_⟩
    exact hname name (Action.givenName?_of_creation hcreation)
  | moved m hm hold =>
    rcases target_came hground hm with ⟨_, f, hf, hid⟩ | ⟨hnew, _⟩
    · refine identified_moveFiles h _ ?_
      rw [hid]
      exact (h.folders f hf).id_ne
    · rw [hold] at hnew
      cases hnew
  | movedAnew m id color hm hnew hid =>
    have hvisible := hname m.target.name (Action.givenName?_of_move hm hnew)
    have hne : id ≠ "" := by
      rcases hid with ⟨_, rfl⟩ | ⟨_, hstamped⟩
      · rcases target_came hground hm with ⟨hold, _⟩ | ⟨_, phrase, _, hslug, hform⟩
        · rw [hnew] at hold
          cases hold
        · rw [hform, Name.visible_displayForm_iff] at hvisible
          rw [hslug]
          exact Name.slug_ne_empty hvisible
      · exact uniqueId?_ne_empty hstamped
    exact identified_moveFiles (identified_withFolder h ⟨hne, hvisible⟩) _ hne
  | renamed id oldName name heq =>
    subst heq
    exact identified_renameFolder h id (hname name rfl)
  | deleted id name _ => exact identified_deleteFolder h id
  | kept _ => exact h

/-- A change that gives a name leaves a folder of that name. -/
theorem Changed.exists_of_givenName {name : String} (hchanged : Changed src store action s)
    (hground : Command.Grounded store action) (hname : action.givenName? = some name) :
    ∃ f ∈ s.folders, f.name = name := by
  cases hchanged with
  | created given parent id color hcreation _ =>
    obtain rfl := Option.some.inj ((Action.givenName?_of_creation hcreation).symm.trans hname)
    exact ⟨_, List.mem_append_right _ (List.mem_singleton_self _), rfl⟩
  | moved m hm hold =>
    cases action with
    | moveFile _ _ create | moveByExtension _ _ create _ =>
      cases hm
      obtain rfl : create = false := hold
      cases hname
    | _ => cases hm
  | movedAnew m id color hm hnew _ =>
    obtain rfl := Option.some.inj ((Action.givenName?_of_move hm hnew).symm.trans hname)
    exact ⟨_, List.mem_append_right _ (List.mem_singleton_self _), rfl⟩
  | renamed id oldName given heq =>
    subst heq
    cases hname
    cases hground with
    | renameFolder hf phrase _ =>
      refine ⟨_, List.mem_map_of_mem hf, ?_⟩
      rw [if_pos (beq_self_eq_true _)]
  | deleted id given heq =>
    subst heq
    cases hname
  | kept hkept =>
    rw [Action.changesTree_of_givenName hname] at hkept
    cases hkept

/-! ## Runs of commands -/

theorem NamesBlankly.not_identified {p : Desk × Sources} {text : String}
    (h : NamesBlankly palette p text) : ¬ (obey palette p text).1.store.Identified := by
  obtain ⟨⟨name, hname, hblank⟩, hcarried⟩ := h
  have hchanged := obey_changed (Action.changesTree_of_givenName hname) hcarried
  obtain ⟨f, hf, rfl⟩ := hchanged.exists_of_givenName (Command.recognise_grounded text _) hname
  exact fun hidentified => hblank (hidentified.folders f hf).name_visible

theorem obey_identified {p : Desk × Sources} {text : String} (h : p.1.All Store.Identified)
    (hno : ¬ NamesBlankly palette p text) : (obey palette p text).1.All Store.Identified := by
  refine step_all_of_change Store.seed_identified _ _ _ ?_ h
  intro s left hc
  refine (change_came hc).identified (Command.recognise_grounded text _) h.1 fun name hname => ?_
  by_contra hblank
  exact hno ⟨⟨name, hname, hblank⟩, Option.isSome_of_mem (Prod.mk.inj hc).1⟩

/-! ### Phrases that blank names come from -/

section
variable {text given : String}

theorem phrase_of_createNested {parentId parentName : String}
    (haction : (Command.recognise text store).action = .createNested given parentId parentName)
    (hblank : ¬ Visible given) : ∃ found,
      Command.firstRule (Command.normalise text) = some (.createNested, found) ∧
        ¬ Visible (found.group 1) := by
  obtain ⟨found, hfound, hread⟩ :=
    Command.recognise_of_tag (r := .createNested) (by rw [haction]; rfl)
  rw [hread] at haction
  rw [Command.eq_of_createNested haction, Name.visible_displayForm_iff] at hblank
  exact ⟨found, hfound, hblank⟩

/-- A folder gets a blank name only if the lookup of nothing gives that folder. -/
theorem phrase_of_renameFolder {id old : String}
    (haction : (Command.recognise text store).action = .renameFolder id old given)
    (hblank : ¬ Visible given) : ∃ found,
      Command.firstRule (Command.normalise text) = some (.renameFolder, found) ∧
        ¬ Visible (found.group 2) ∧ ∃ f g, store.findFolder (strip (found.group 1)) = some f ∧
          store.findFolder "" = some g ∧ g.id = f.id := by
  obtain ⟨found, hfound, hread⟩ := Command.recognise_rename_iff.mp haction
  obtain ⟨f, hf, hfree, rfl, rfl, rfl⟩ := Command.rename_eq_iff.mp hread
  rw [Name.visible_displayForm_iff] at hblank
  have hsome := Store.findFolder_ne_none not_visible_empty
    (List.ne_nil_of_mem (Store.findFolder_mem hf))
  obtain ⟨g, hg⟩ := Option.ne_none_iff_exists'.mp hsome
  rw [Name.displayForm_of_not_visible hblank] at hfree
  exact ⟨found, hfound, hblank, f, g, hf, hg, hfree g hg⟩

theorem phrase_of_createSimple
    (haction : (Command.recognise text store).action = .createSimple given)
    (hblank : ¬ Visible given) : store.folders = [] ∧ ∃ found,
      Command.firstRule (Command.normalise text) = some (.createSimple, found) ∧
        ¬ Visible (found.group 1) := by
  obtain ⟨found, hfound, hread⟩ :=
    Command.recognise_of_tag (r := .createSimple) (by rw [haction]; rfl)
  rw [hread] at haction
  obtain ⟨hfree, rfl⟩ := Command.free_of_createSimple haction
  refine ⟨?_, found, hfound, Name.visible_displayForm_iff.not.mp hblank⟩
  by_contra hfolders
  exact Store.findFolder_ne_none hblank hfolders hfree

theorem phrase_of_move {m : Move} (hm : (Command.recognise text store).action.move? = some m)
    (hnew : m.create = true) (hblank : ¬ Visible m.target.name) : store.folders = [] ∧ ∃ r found,
      Command.firstRule (Command.normalise text) = some (r, found) ∧
        (r = .moveByExtension ∨ r = .moveFile) ∧ ¬ Visible (found.group 2) := by
  obtain ⟨r, found, hfound, hr, htarget⟩ := Command.found_of_move hm
  cases hlookup : store.findFolder (found.group 2) with
  | some f =>
    rw [Command.destination_of_some hlookup, Prod.mk.injEq, hnew] at htarget
    cases htarget.2
  | none =>
    rw [Command.destination_of_none hlookup, Prod.mk.injEq] at htarget
    rw [htarget.1, Name.visible_displayForm_iff] at hblank
    refine ⟨?_, r, found, hfound, hr, hblank⟩
    by_contra hfolders
    exact Store.findFolder_ne_none hblank hfolders hlookup

end

/-- **Where a blank name can come from**: a phrase that does not show for a new folder inside another
one; or such a phrase for the new name of the folder that a lookup of nothing gives; or, when the tree
has no folders at all, such a phrase for a new folder or for the destination of a move. -/
theorem NamesBlankly.phrase {p : Desk × Sources} {text : String} (h : NamesBlankly palette p text) :
    ∃ r found, Command.firstRule (Command.normalise text) = some (r, found) ∧
      ((r = .createNested ∧ ¬ Visible (found.group 1)) ∨
        (r = .renameFolder ∧ ¬ Visible (found.group 2) ∧ ∃ f g,
          p.1.store.findFolder (strip (found.group 1)) = some f ∧
          p.1.store.findFolder "" = some g ∧ g.id = f.id) ∨
        (p.1.store.folders = [] ∧ (r = .createSimple ∧ ¬ Visible (found.group 1) ∨
          (r = .moveByExtension ∨ r = .moveFile) ∧ ¬ Visible (found.group 2)))) := by
  obtain ⟨⟨name, hname, hblank⟩, _⟩ := h
  cases haction : (Command.recognise text p.1.store).action with
  | createNested given parentId parentName =>
    rw [haction] at hname
    obtain rfl : given = name := Option.some.inj hname
    obtain ⟨found, hfound, hphrase⟩ := phrase_of_createNested haction hblank
    exact ⟨_, found, hfound, .inl ⟨rfl, hphrase⟩⟩
  | renameFolder id old given =>
    rw [haction] at hname
    obtain rfl : given = name := Option.some.inj hname
    obtain ⟨found, hfound, hphrase⟩ := phrase_of_renameFolder haction hblank
    exact ⟨_, found, hfound, .inr (.inl ⟨rfl, hphrase⟩)⟩
  | createSimple given =>
    rw [haction] at hname
    obtain rfl : given = name := Option.some.inj hname
    obtain ⟨hfolders, found, hfound, hphrase⟩ := phrase_of_createSimple haction hblank
    exact ⟨_, found, hfound, .inr (.inr ⟨hfolders, .inl ⟨rfl, hphrase⟩⟩)⟩
  | moveFile _ target create | moveByExtension _ target create _ =>
    rw [haction] at hname
    cases create with
    | false => cases hname
    | true =>
      obtain rfl : target.name = name := Option.some.inj hname
      obtain ⟨hfolders, r, found, hfound, hr, hphrase⟩ :=
        phrase_of_move (by rw [haction]; rfl) rfl hblank
      exact ⟨r, found, hfound, .inr (.inr ⟨hfolders, .inr ⟨hr, hphrase⟩⟩)⟩
  | _ =>
    rw [haction] at hname
    cases hname

theorem obeyAll_identified_iff {texts : List String} {p : Desk × Sources}
    (h : p.1.All Store.Identified) :
    (∀ before, before <+: texts → (obeyAll palette before p).1.store.Identified) ↔
      ∀ before text, before ++ [text] <+: texts →
        ¬ NamesBlankly palette (obeyAll palette before p) text :=
  forall_prefix_iff (f := obey palette) (P := fun p => p.1.All Store.Identified)
    (Q := fun p => p.1.store.Identified) (R := NamesBlankly palette)
    (fun _ hp => hp.1) (fun _ _ hp hno => obey_identified hp hno)
    (fun _ _ _ hblank => hblank.not_identified) texts h

/-- **Every folder can be told from nothing** in every tree that commands lead to from the seed tree,
whatever the clock and the choice of colours do, exactly as long as no command is carried out that
names a folder blankly. In such a tree a file's reference counts as unset exactly if there is none, and
an unorganized file is in no folder of the tree. A command that names a folder blankly has a phrase
that does not show: for a new folder inside another one, for the new name of the folder that a lookup
of nothing gives, or, in a tree without folders, for a new folder or the destination of a move. -/
theorem obeyAll_identified (palette : List String) (src : Sources) (limit : History.Limit)
    (selected : Option String) (texts : List String) :
    let start : Desk := ⟨Store.seed, .empty limit.val limit.property, selected⟩
    ((∀ before, before <+: texts → (obeyAll palette before (start, src)).1.store.Identified) ↔
      ∀ before text, before ++ [text] <+: texts →
        ¬ NamesBlankly palette (obeyAll palette before (start, src)) text) ∧
    (∀ s : Store, s.Identified →
      (∀ f ∈ s.files, isUnset f.folder ↔ f.folder = none) ∧
      ∀ f ∈ s.unorganizedFiles, ∀ g ∈ s.folders, f ∉ s.filesIn g.id) ∧
    ∀ (p : Desk × Sources) (text : String), NamesBlankly palette p text →
      ∃ r found, Command.firstRule (Command.normalise text) = some (r, found) ∧
        ((r = .createNested ∧ ¬ Visible (found.group 1)) ∨
          (r = .renameFolder ∧ ¬ Visible (found.group 2) ∧ ∃ f g,
            p.1.store.findFolder (strip (found.group 1)) = some f ∧
            p.1.store.findFolder "" = some g ∧ g.id = f.id) ∨
          (p.1.store.folders = [] ∧ (r = .createSimple ∧ ¬ Visible (found.group 1) ∨
            (r = .moveByExtension ∨ r = .moveFile) ∧ ¬ Visible (found.group 2)))) := by
  intro start
  have hstart : start.All Store.Identified := Desk.all_seed Store.seed_identified limit selected
  refine ⟨obeyAll_identified_iff hstart, fun s hs => ⟨fun f hf => hs.unset_iff hf, ?_⟩, ?_⟩
  · exact fun f hf g _ => hs.not_mem_filesIn hf g
  · exact fun p text h => h.phrase

/-- When all folders are gone, a move to a quoted blank makes a folder without identifier and name, and
the file in it counts as unorganized all the same. -/
theorem obeyAll_blank_destination :
    let src : Sources := { clock := fun _ => some 1000, colorFrom := fun _ colors => colors.head? }
    let start : Desk := ⟨Store.seed, .empty 20 (by decide), none⟩
    let texts : List String :=
      ["delete images", "delete documents", "delete media", "move song.mp3 to \" \""]
    let store := (obeyAll Palette.builtIn texts (start, src)).1.store
    store.folders = [⟨"", "", "bg-blue-500", none⟩] ∧
      (∃ f ∈ store.unorganizedFiles, ∃ g ∈ store.folders, f ∈ store.filesIn g.id) ∧
      ¬ store.Identified := by
  intro src start texts store
  have hboth : store.folders = [⟨"", "", "bg-blue-500", none⟩] ∧
      ∃ f ∈ store.unorganizedFiles, ∃ g ∈ store.folders, f ∈ store.filesIn g.id := by
    decide +kernel
  obtain ⟨hfolders, f, hf, g, hg, hin⟩ := hboth
  exact ⟨hfolders, ⟨f, hf, g, hg, hin⟩, fun hs => hs.not_mem_filesIn hf g hin⟩

end Engine

end FolderTalk
