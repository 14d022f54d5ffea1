import FolderTalk.Proofs.Engine.CreatedTwice

/-!
# Refusals of names

A command that would give a name to a folder is refused if something is in the way of the name. Inside
another folder this is a folder of the same name in it. At the top, and for a folder that is renamed, it
is whatever the lookup of the name finds, and that can be a folder with another name whose identifier
holds this one.

* `NameRequest`, `nameRequest?` : the name that a command asks for, and the place of the folder;
* `NameRequest.Blocks` : a folder that is in the way;
* `recognise_refusal` : a command is refused exactly if some folder is in the way, what such a folder
  has to do with the name, and which folders of the name are in the way.
-/

namespace FolderTalk

open Text (toLower strip)

/-- The folder has the name, up to case. -/
def Folder.IsNamed (f : Folder) (name : String) : Prop := toLower f.name = toLower name

instance (f : Folder) (name : String) : Decidable (f.IsNamed name) :=
  inferInstanceAs (Decidable (_ = _))

namespace Command

/-- A name that a folder is to get. -/
structure NameRequest where
  name : String
  /-- The parent of the folder under this name. -/
  parent : Option String
  /-- The folder, if it is there already. -/
  renamed : Option Folder
  /-- The reply if something is in the way of the name. -/
  refusal : Intent

/-- The name that a command asks for once its folder, or the parent of its folder, is found. -/
def nameRequest? (store : Store) (r : Rule) (m : Found) : Option NameRequest :=
  let name := Name.displayForm (m.group 1)
  match r with
  | .createSimple => some ⟨name, none, none, nameTaken name⟩
  | .createNested =>
    (store.findFolder (strip (m.group 2))).map fun parent =>
      ⟨name, some parent.id, none, nameTakenInside name parent.name⟩
  | .renameFolder =>
    let name := Name.displayForm (m.group 2)
    (store.findFolder (strip (m.group 1))).map fun f => ⟨name, f.parent, some f, nameTaken name⟩
  | _ => none

/-- The folder is in the way of the name: it stands in the same parent under this name, or the lookup
of the name finds it and it is not the one that is renamed. -/
inductive NameRequest.Blocks (store : Store) (q : NameRequest) (f : Folder) : Rule → Prop
  | inside (hf : f ∈ store.folders) (hname : f.IsNamed q.name) (hparent : f.parent = q.parent) :
      Blocks store q f .createNested
  | top (hf : store.findFolder q.name = some f) : Blocks store q f .createSimple
  | other (hf : store.findFolder q.name = some f) (hother : ∀ g ∈ q.renamed, f.id ≠ g.id) :
      Blocks store q f .renameFolder

variable {store : Store} {r : Rule} {m : Found} {q : NameRequest} {text : String} {f : Folder}

/-! ## When a name is refused -/

theorem hasSibling_iff {name parentId : String} :
    hasSibling store name parentId = true ↔
      ∃ f ∈ store.folders, f.IsNamed name ∧ f.parent = some parentId := by
  simp [hasSibling, Folder.IsNamed]

theorem createNested_refusal {newPhrase phrase : String} {parent : Folder}
    (hparent : store.findFolder (strip phrase) = some parent) :
    createNested store newPhrase phrase = nameTakenInside (Name.displayForm newPhrase) parent.name ↔
      ∃ f ∈ store.folders, f.IsNamed (Name.displayForm newPhrase) ∧ f.parent = some parent.id := by
  rw [createNested_of_some hparent, ← hasSibling_iff]
  split
  · next htaken => simp [htaken]
  · next hfree => simp [hfree, nameTakenInside, reply]

theorem createSimple_refusal {phrase : String} :
    createSimple store phrase = nameTaken (Name.displayForm phrase) ↔
      ∃ f, store.findFolder (Name.displayForm phrase) = some f := by
  rw [← Option.isSome_iff_exists, createSimple]
  split
  · next htaken => simp [htaken]
  · next hfree => simp [hfree, nameTaken, reply]

theorem rename_refusal {oldPhrase newPhrase : String}
    (hf : store.findFolder (strip oldPhrase) = some f) :
    rename store oldPhrase newPhrase = nameTaken (Name.displayForm newPhrase) ↔
      ∃ g, store.findFolder (Name.displayForm newPhrase) = some g ∧ g.id ≠ f.id := by
  rw [rename]
  dsimp only
  rw [hf]
  dsimp only
  cases hnew : store.findFolder (Name.displayForm newPhrase) with
  | none => simp [nameTaken, reply]
  | some g =>
    by_cases hsame : g.id = f.id
    · simp [hsame, nameTaken, reply]
    · simp [hsame]

namespace NameRequest

@[simp] theorem blocks_createNested : q.Blocks store f .createNested ↔
    f ∈ store.folders ∧ f.IsNamed q.name ∧ f.parent = q.parent :=
  ⟨fun | .inside hf hname hparent => ⟨hf, hname, hparent⟩,
   fun ⟨hf, hname, hparent⟩ => .inside hf hname hparent⟩

@[simp] theorem blocks_createSimple :
    q.Blocks store f .createSimple ↔ store.findFolder q.name = some f :=
  ⟨fun | .top hf => hf, .top⟩

@[simp] theorem blocks_renameFolder : q.Blocks store f .renameFolder ↔
    store.findFolder q.name = some f ∧ ∀ g ∈ q.renamed, f.id ≠ g.id :=
  ⟨fun | .other hf hother => ⟨hf, hother⟩, fun ⟨hf, hother⟩ => .other hf hother⟩

end NameRequest

/-- **A command for a name is refused** exactly if a folder is in the way of it. -/
theorem refused_iff (hfound : firstRule (normalise text) = some (r, m))
    (hq : nameRequest? store r m = some q) :
    recognise text store = q.refusal ↔ ∃ f, q.Blocks store f r := by
  rw [recognise_eq_intentOf hfound]
  cases r with
  | createSimple =>
    obtain rfl := Option.some.inj hq
    simp only [NameRequest.blocks_createSimple]
    exact createSimple_refusal
  | createNested =>
    obtain ⟨parent, hparent, rfl⟩ := Option.map_eq_some_iff.mp hq
    simp only [NameRequest.blocks_createNested]
    exact createNested_refusal hparent
  | renameFolder =>
    obtain ⟨old, hold, rfl⟩ := Option.map_eq_some_iff.mp hq
    simp only [NameRequest.blocks_renameFolder, Option.mem_some_iff, forall_eq']
    exact rename_refusal hold
  | _ => cases hq

/-! ## What is in the way -/

/-- The names that commands ask for are looked up as they are, in small letters. -/
theorem strip_toLower_of_nameRequest (hq : nameRequest? store r m = some q) :
    strip (toLower q.name) = toLower q.name := by
  cases r with
  | createSimple =>
    obtain rfl := Option.some.inj hq
    exact Name.strip_toLower_displayForm _
  | createNested | renameFolder =>
    obtain ⟨_, _, rfl⟩ := Option.map_eq_some_iff.mp hq
    exact Name.strip_toLower_displayForm _
  | _ => cases hq

/-- What the lookup of a name finds has this name, or no folder has it and it stands in the
identifier. -/
theorem isNamed_or_of_findFolder {name : String} (hname : strip (toLower name) = toLower name)
    (hf : store.findFolder name = some f) :
    f.IsNamed name ∨
      (∀ g ∈ store.folders, ¬ g.IsNamed name) ∧ (toLower name).toList <:+: f.id.toList := by
  by_cases hnamed : ∃ g ∈ store.folders, g.IsNamed name
  · obtain ⟨g, hg, hsame⟩ := hnamed
    obtain ⟨h, _, hfirst, hh⟩ := Store.findFolder_of_name hg (hsame.trans hname.symm)
    cases hf.symm.trans hfirst
    exact .inl (hh.trans hname)
  · have hnone : ∀ g ∈ store.folders, ¬ g.IsNamed name := by simpa using hnamed
    rcases Store.answersTo_of_findFolder hf with hsame | hid | hpart
    · exact absurd (hsame.trans hname) (hnone f (Store.findFolder_mem hf))
    · exact .inr ⟨hnone, by rw [hid, hname]⟩
    · exact .inr ⟨hnone, hname ▸ hpart⟩

/-- What is in the way of a name. -/
theorem NameRequest.Blocks.isNamed_or (hq : nameRequest? store r m = some q)
    (h : q.Blocks store f r) :
    f.IsNamed q.name ∨ r ≠ .createNested ∧ (∀ g ∈ store.folders, ¬ g.IsNamed q.name) ∧
      (toLower q.name).toList <:+: f.id.toList := by
  have hname := strip_toLower_of_nameRequest hq
  cases h with
  | inside _ hsame _ => exact .inl hsame
  | top hf => exact (isNamed_or_of_findFolder hname hf).imp_right fun h => ⟨nofun, h⟩
  | other hf _ => exact (isNamed_or_of_findFolder hname hf).imp_right fun h => ⟨nofun, h⟩

/-- A folder of the name at the place where the command would put it is in the way, or another one
is, unless the folder to be renamed has the name already. -/
theorem exists_blocks_of_isNamed (hq : nameRequest? store r m = some q) (hf : f ∈ store.folders)
    (hname : f.IsNamed q.name) (hparent : f.parent = q.parent) :
    (∃ g, q.Blocks store g r) ∨
      ∃ old ∈ q.renamed, ∃ g ∈ store.folders, g.id = old.id ∧ g.IsNamed q.name := by
  have hlook := strip_toLower_of_nameRequest hq
  obtain ⟨g, hg, hfirst, hsame⟩ := Store.findFolder_of_name hf (hname.trans hlook.symm)
  cases r with
  | createSimple => exact .inl ⟨g, .top hfirst⟩
  | createNested => exact .inl ⟨f, .inside hf hname hparent⟩
  | renameFolder =>
    obtain ⟨old, _, rfl⟩ := Option.map_eq_some_iff.mp hq
    by_cases hown : g.id = old.id
    · exact .inr ⟨old, rfl, g, hg, hown, hsame.trans hlook⟩
    · exact .inl ⟨g, .other hfirst (by simpa using hown)⟩
  | _ => cases hq

/-! ## Where refusals come from -/

/-- The reply says that a folder of some name is there already. -/
def SaysTaken (i : Intent) : Prop :=
  ∃ name, i = nameTaken name ∨ ∃ parentName, i = nameTakenInside name parentName

theorem SaysTaken.action_eq {i : Intent} (h : SaysTaken i) : i.action = .info := by
  obtain ⟨_, rfl | ⟨_, rfl⟩⟩ := h <;> rfl

theorem SaysTaken.head_summary {i : Intent} (h : SaysTaken i) :
    i.summary.toList.head? = some 'A' := by
  obtain ⟨_, rfl | ⟨_, rfl⟩⟩ := h <;> simp [nameTaken, nameTakenInside, reply]

/-- No other reply begins like it. -/
theorem not_saysTaken_reply {summary : String} (h : summary.toList.head? ≠ some 'A') :
    ¬ SaysTaken (reply summary) :=
  fun htaken => h htaken.head_summary

theorem not_saysTaken_notFound {kind name : String} : ¬ SaysTaken (notFound kind name) :=
  not_saysTaken_reply (by simp)

theorem createSimple_eq_of_saysTaken {phrase : String} (h : SaysTaken (createSimple store phrase)) :
    createSimple store phrase = nameTaken (Name.displayForm phrase) := by
  have hinfo := h.action_eq
  unfold createSimple at hinfo ⊢
  dsimp only at hinfo ⊢
  split
  · rfl
  · next hfree => simp [hfree] at hinfo

theorem createNested_eq_of_saysTaken {newPhrase phrase : String}
    (h : SaysTaken (createNested store newPhrase phrase)) :
    ∃ parent, store.findFolder (strip phrase) = some parent ∧
      createNested store newPhrase phrase =
        nameTakenInside (Name.displayForm newPhrase) parent.name := by
  cases hparent : store.findFolder (strip phrase) with
  | none =>
    rw [createNested, hparent] at h
    exact absurd h not_saysTaken_notFound
  | some parent =>
    have hinfo := h.action_eq
    rw [createNested_of_some hparent] at hinfo ⊢
    refine ⟨parent, rfl, ?_⟩
    split
    · rfl
    · next hfree => simp [hfree] at hinfo

theorem rename_eq_of_saysTaken {oldPhrase newPhrase : String}
    (h : SaysTaken (rename store oldPhrase newPhrase)) :
    ∃ f, store.findFolder (strip oldPhrase) = some f ∧
      rename store oldPhrase newPhrase = nameTaken (Name.displayForm newPhrase) := by
  cases hf : store.findFolder (strip oldPhrase) with
  | none =>
    simp only [rename, hf] at h
    exact absurd h not_saysTaken_notFound
  | some f =>
    have hinfo := h.action_eq
    simp only [rename, hf] at hinfo ⊢
    refine ⟨f, rfl, ?_⟩
    cases hnew : store.findFolder (Name.displayForm newPhrase) with
    | none => simp [hnew] at hinfo
    | some other =>
      simp only [hnew] at hinfo ⊢
      split
      · rfl
      · next hsame => simp [hsame] at hinfo

/-- Only commands that ask for a name are refused one. -/
theorem exists_nameRequest (h : SaysTaken (recognise text store)) :
    ∃ r m q, firstRule (normalise text) = some (r, m) ∧ nameRequest? store r m = some q ∧
      recognise text store = q.refusal := by
  cases hfound : firstRule (normalise text) with
  | none =>
    simp only [recognise, hfound] at h
    exact absurd h (not_saysTaken_reply (by decide +kernel))
  | some found =>
    obtain ⟨r, m⟩ := found
    rw [recognise_eq_intentOf hfound] at h ⊢
    refine ⟨r, m, ?_⟩
    cases r with
    | createSimple =>
      dsimp only [intentOf] at h ⊢
      exact ⟨_, rfl, rfl, createSimple_eq_of_saysTaken h⟩
    | createNested =>
      dsimp only [intentOf] at h ⊢
      obtain ⟨parent, hparent, htaken⟩ := createNested_eq_of_saysTaken h
      exact ⟨_, rfl, Option.map_eq_some_iff.mpr ⟨parent, hparent, rfl⟩, htaken⟩
    | renameFolder =>
      dsimp only [intentOf] at h ⊢
      obtain ⟨f, hf, htaken⟩ := rename_eq_of_saysTaken h
      exact ⟨_, rfl, Option.map_eq_some_iff.mpr ⟨f, hf, rfl⟩, htaken⟩
    | undo | reset | list => cases h.action_eq
    | deleteFolder =>
      simp only [intentOf, delete] at h
      split at h
      · exact absurd h not_saysTaken_notFound
      · cases h.action_eq
    | openFolder =>
      simp only [intentOf, openFolder] at h
      split at h
      · exact absurd h not_saysTaken_notFound
      · cases h.action_eq
    | moveFile =>
      simp only [intentOf, moveFile] at h
      split at h
      · exact absurd h not_saysTaken_notFound
      · cases h.action_eq
    | moveByExtension =>
      simp only [intentOf, moveByExtension] at h
      split at h
      · exact absurd h (not_saysTaken_reply (by simp))
      · cases h.action_eq

/-- **Refusals of names.** A reply that a folder of some name is there already answers a command that
asks for this name. Such a command is refused exactly if some folder is in the way. This folder has the
name, up to case; or, if the command does not create a folder inside another one, no folder has it and
the lookup found it in an identifier. And where a folder of the name stands in the place that the
command asks for, the command is refused, unless it renames a folder that has the name already. -/
theorem recognise_refusal (store : Store) (text : String) :
    (SaysTaken (recognise text store) →
      ∃ r m q, firstRule (normalise text) = some (r, m) ∧ nameRequest? store r m = some q ∧
        recognise text store = q.refusal) ∧
    ∀ r m q, firstRule (normalise text) = some (r, m) → nameRequest? store r m = some q →
      (recognise text store = q.refusal ↔ ∃ f, q.Blocks store f r) ∧
      (∀ f, q.Blocks store f r → f.IsNamed q.name ∨
        r ≠ .createNested ∧ (∀ g ∈ store.folders, ¬ g.IsNamed q.name) ∧
          (toLower q.name).toList <:+: f.id.toList) ∧
      ∀ f ∈ store.folders, f.IsNamed q.name → f.parent = q.parent →
        recognise text store = q.refusal ∨
          ∃ old ∈ q.renamed, ∃ g ∈ store.folders, g.id = old.id ∧ g.IsNamed q.name := by
  refine ⟨exists_nameRequest, fun r m q hfound hq => ?_⟩
  have hrefused := refused_iff hfound hq
  refine ⟨hrefused, fun f hf => hf.isNamed_or hq, fun f hf hname hparent => ?_⟩
  exact (exists_blocks_of_isNamed hq hf hname hparent).imp_left hrefused.mpr

/-- A folder is not renamed to the name of another one. -/
theorem recognise_refusal_rename :
    recognise "Rename images to media" Store.seed = nameTaken "Media" := by
  let m : Found := ⟨"rename images to media".toList, ["images".toList, "media".toList]⟩
  let images : Folder := ⟨"images", "Images", "bg-blue-500", none⟩
  let media : Folder := ⟨"media", "Media", "bg-purple-500", none⟩
  have hfound : firstRule (normalise "Rename images to media") = some (.renameFolder, m) := by
    decide +kernel
  have himages : Store.seed.findFolder (strip (m.group 1)) = some images := by decide +kernel
  have hname : Name.displayForm (m.group 2) = "Media" := by decide +kernel
  have hq : nameRequest? Store.seed .renameFolder m =
      some ⟨"Media", none, some images, nameTaken "Media"⟩ := by
    rw [nameRequest?, himages, hname]
    rfl
  obtain ⟨hrefused, -⟩ := (recognise_refusal Store.seed _).2 _ _ _ hfound hq
  exact hrefused.mpr ⟨media, .other (by decide +kernel) (by decide)⟩

/-- A folder of another name can be in the way, if its identifier holds the name. And a folder is
renamed to the name that it has, even if there is a second one of this name beside it. -/
theorem recognise_refusal_other_name :
    let twins : Store := ⟨[], [⟨"a", "A", "bg-blue-500", none⟩, ⟨"b", "A", "bg-blue-500", none⟩]⟩
    recognise "create folder image" Store.seed = nameTaken "Image" ∧
      (∀ f ∈ Store.seed.folders, ¬ f.IsNamed "Image") ∧
      (recognise "rename a to a" twins).action = .renameFolder "a" "A" "A" ∧
      ∃ f ∈ twins.folders, f.id ≠ "a" ∧ f.IsNamed "A" ∧ f.parent = none := by
  decide +kernel

end Command

end FolderTalk
