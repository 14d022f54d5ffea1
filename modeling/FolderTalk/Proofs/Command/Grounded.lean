import FolderTalk.Proofs.Command.Language
import FolderTalk.Proofs.Engine.Changed
import FolderTalk.Proofs.Text.Trimmed

/-!
# What a command can ask for

A command is understood against a tree, so the folders in its intent are folders of that tree and
the names that it gives are free there, as far as the lookups tell.

* `Store.findFolder_mem`, `Store.findFolder_of_name` : a lookup finds a folder of the tree, and a
  folder of the very name before any other;
* `Grounded` : the actions that a command can ask for in a tree (`recognise_grounded`);
* `found_of_move` : a command that asks for a move was read by one of the two rules for moves, and
  the move goes where the lookup of its target phrase says.
-/

namespace FolderTalk

namespace Store

open Command (orElse_eq_some)

variable {s : Store} {phrase : String} {f : Folder}

theorem findFolder_mem (h : s.findFolder phrase = some f) : f ∈ s.folders := by
  unfold findFolder at h
  dsimp only at h
  rcases orElse_eq_some.mp h with h | ⟨_, h⟩
  · exact List.mem_of_find?_eq_some h
  · rcases orElse_eq_some.mp h with h | ⟨_, h⟩
    · exact List.mem_of_find?_eq_some h
    · exact List.mem_of_find?_eq_some h

/-- If some folder has the name that is looked for, a folder of that name is found. -/
theorem findFolder_of_name (hf : f ∈ s.folders)
    (hname : Text.toLower f.name = Text.strip (Text.toLower phrase)) :
    ∃ g ∈ s.folders, s.findFolder phrase = some g ∧
      Text.toLower g.name = Text.strip (Text.toLower phrase) := by
  have hsome : (s.folders.find? fun g =>
      Text.toLower g.name == Text.strip (Text.toLower phrase)).isSome := by
    rw [List.find?_isSome]
    exact ⟨f, hf, by rw [hname, beq_self_eq_true]⟩
  obtain ⟨g, hg⟩ := Option.isSome_iff_exists.mp hsome
  refine ⟨g, List.mem_of_find?_eq_some hg, ?_, by simpa using List.find?_some hg⟩
  unfold findFolder
  dsimp only
  rw [hg]
  rfl

end Store

namespace Command

/-- The actions that a command can ask for in a tree. -/
inductive Grounded (store : Store) : Action → Prop
  | undo : Grounded store .undo
  | reset : Grounded store .reset
  | info : Grounded store .info
  | list : Grounded store .list
  | openFolder {f : Folder} (hf : f ∈ store.folders) : Grounded store (.openFolder f.id)
  | renameFolder {f : Folder} (hf : f ∈ store.folders) (phrase : String)
      (hfree : ∀ g, store.findFolder (Name.displayForm phrase) = some g → g.id = f.id) :
      Grounded store (.renameFolder f.id f.name (Name.displayForm phrase))
  | deleteFolder {f : Folder} (hf : f ∈ store.folders) : Grounded store (.deleteFolder f.id f.name)
  | createNested {parent : Folder} (hparent : parent ∈ store.folders) (phrase : String)
      (hfree : hasSibling store (Name.displayForm phrase) parent.id = false) :
      Grounded store (.createNested (Name.displayForm phrase) parent.id parent.name)
  | createSimple (phrase : String) (hfree : store.findFolder (Name.displayForm phrase) = none) :
      Grounded store (.createSimple (Name.displayForm phrase))
  | moveByExtension (extension phrase : String) :
      Grounded store (.moveByExtension extension (destination store phrase).1
        (destination store phrase).2 ((store.filesWithExtension extension).map (·.name)))
  | moveFile {file : FileEntry} (hfile : file ∈ store.files) (phrase : String) :
      Grounded store
        (.moveFile file.name (destination store phrase).1 (destination store phrase).2)

/-! ## The intents of the single rules -/

variable {store : Store}

theorem findPhrase_mem {phrase : String} {f : Folder} (h : findPhrase store phrase = some f) :
    f ∈ store.folders := by
  unfold findPhrase at h
  rcases orElse_eq_some.mp h with h | ⟨_, h⟩
  · exact Store.findFolder_mem h
  · obtain ⟨shorter, _, h⟩ := Option.bind_eq_some_iff.mp h
    exact Store.findFolder_mem h

theorem rename_grounded (oldPhrase newPhrase : String) :
    Grounded store (rename store oldPhrase newPhrase).action := by
  unfold rename
  dsimp only
  split
  · exact .info
  · next f hf =>
    cases hnew : store.findFolder (Name.displayForm newPhrase) with
    | none =>
      refine .renameFolder (Store.findFolder_mem hf) newPhrase fun g hg => ?_
      rw [hnew] at hg
      cases hg
    | some other =>
      dsimp only
      split
      · exact .info
      · next hsame =>
        refine .renameFolder (Store.findFolder_mem hf) newPhrase fun g hg => ?_
        rw [hnew] at hg
        cases hg
        simpa using hsame

theorem delete_grounded (phrase : String) : Grounded store (delete store phrase).action := by
  unfold delete
  dsimp only
  split
  · exact .info
  · next f hf => exact .deleteFolder (findPhrase_mem hf)

theorem createNested_grounded (newPhrase parentPhrase : String) :
    Grounded store (createNested store newPhrase parentPhrase).action := by
  unfold createNested
  dsimp only
  split
  · exact .info
  · next parent hparent =>
    split
    · exact .info
    · next hfree =>
      exact .createNested (Store.findFolder_mem hparent) newPhrase (eq_false_of_ne_true hfree)

theorem createSimple_grounded (phrase : String) :
    Grounded store (createSimple store phrase).action := by
  unfold createSimple
  dsimp only
  split
  · exact .info
  · next hfree => exact .createSimple phrase (Option.not_isSome_iff_eq_none.mp hfree)

theorem moveByExtension_grounded (word phrase : String) :
    Grounded store (moveByExtension store word phrase).action := by
  unfold moveByExtension
  dsimp only
  split
  · exact .info
  · exact .moveByExtension (Text.toLower word) phrase

theorem moveFile_grounded (filePhrase phrase : String) :
    Grounded store (moveFile store filePhrase phrase).action := by
  unfold moveFile
  dsimp only
  split
  · exact .info
  · next file hfile => exact .moveFile (List.mem_of_find?_eq_some hfile) phrase

theorem openFolder_grounded (phrase : String) : Grounded store (openFolder store phrase).action := by
  unfold openFolder
  dsimp only
  split
  · exact .info
  · next f hf => exact .openFolder (findPhrase_mem hf)

theorem intentOf_grounded (r : Rule) (m : Found) (store : Store) :
    Grounded store (intentOf r m store).action := by
  cases r with
  | undo => exact .undo
  | reset => exact .reset
  | renameFolder => exact rename_grounded _ _
  | deleteFolder => exact delete_grounded _
  | createNested => exact createNested_grounded _ _
  | createSimple => exact createSimple_grounded _
  | moveByExtension => exact moveByExtension_grounded _ _
  | moveFile => exact moveFile_grounded _ _
  | list => exact .list
  | openFolder => exact openFolder_grounded _

/-- **Every command** asks for something that is grounded in the tree it is understood against. -/
theorem recognise_grounded (text : String) (store : Store) :
    Grounded store (recognise text store).action := by
  unfold recognise
  split
  · exact intentOf_grounded _ _ store
  · exact .info

/-! ## Which rule asks for what -/

theorem Rule.name_injective : Function.Injective Rule.name := by
  intro r s h
  have hnodup : (Rule.all.map Rule.name).Nodup := by decide
  exact List.inj_on_of_nodup_map hnodup (Rule.mem_all r) (Rule.mem_all s) h

/-- A rule asks for its own kind of action, or for none. -/
theorem intentOf_tag (r : Rule) (m : Found) (store : Store) :
    (intentOf r m store).action = .info ∨ (intentOf r m store).action.tag = r.name := by
  cases r with
  | undo | reset | list => exact .inr rfl
  | renameFolder =>
    simp only [intentOf, rename]
    split
    · exact .inl rfl
    · split <;> split <;> first | exact .inl rfl | exact .inr rfl
  | deleteFolder =>
    simp only [intentOf, delete]
    split
    · exact .inl rfl
    · exact .inr rfl
  | createNested =>
    simp only [intentOf, createNested]
    split
    · exact .inl rfl
    · split
      · exact .inl rfl
      · exact .inr rfl
  | createSimple =>
    simp only [intentOf, createSimple]
    split
    · exact .inl rfl
    · exact .inr rfl
  | moveByExtension =>
    simp only [intentOf, moveByExtension]
    split
    · exact .inl rfl
    · exact .inr rfl
  | moveFile =>
    simp only [intentOf, moveFile]
    split
    · exact .inl rfl
    · exact .inr rfl
  | openFolder =>
    simp only [intentOf, openFolder]
    split
    · exact .inl rfl
    · exact .inr rfl

theorem find_of_firstRule {command : List Char} {r : Rule} {found : Found}
    (h : firstRule command = some (r, found)) : r.find command = some found := by
  obtain ⟨s, _, hs⟩ := List.exists_of_findSome?_eq_some h
  obtain ⟨_, hfind, heq⟩ := Option.map_eq_some_iff.mp hs
  cases heq
  exact hfind

/-- A command that asks for a rule's kind of action was read by this rule. -/
theorem recognise_of_tag {text : String} {r : Rule} (h : (recognise text store).action.tag = r.name) :
    ∃ found, firstRule (normalise text) = some (r, found) ∧
      recognise text store = intentOf r found store := by
  have hinfo : (recognise text store).action ≠ .info := by
    intro hinfo
    rw [hinfo] at h
    cases r <;> exact absurd h (by decide)
  unfold recognise at h hinfo ⊢
  split at h
  · next r' found hfound =>
    simp only [hfound] at hinfo ⊢
    have htag := (intentOf_tag r' found store).resolve_left hinfo
    obtain rfl : r' = r := Rule.name_injective (htag.symm.trans h)
    exact ⟨found, rfl, rfl⟩
  · next hnone =>
    rw [hnone] at hinfo
    exact absurd rfl hinfo

/-- What a command says that deletes a folder. -/
theorem summary_of_delete {text id name : String}
    (h : (recognise text store).action = .deleteFolder id name) :
    (recognise text store).summary = "Deleted \"" ++ name ++ "\" folder." := by
  obtain ⟨found, -, hread⟩ := recognise_of_tag (r := .deleteFolder) (by rw [h]; rfl)
  rw [hread] at h ⊢
  simp only [intentOf, delete] at h ⊢
  split at h
  · cases h
  · cases h
    rfl

/-! ## Where moves go -/

theorem destination_of_none {phrase : String} (h : store.findFolder phrase = none) :
    destination store phrase = (⟨Name.slug phrase, Name.displayForm phrase⟩, true) := by
  unfold destination
  rw [h]

theorem destination_of_some {phrase : String} {f : Folder} (h : store.findFolder phrase = some f) :
    destination store phrase = (⟨f.id, f.name⟩, false) := by
  unfold destination
  rw [h]

theorem move?_moveByExtension {word phrase : String} {m : Move}
    (h : (moveByExtension store word phrase).action.move? = some m) :
    (m.target, m.create) = destination store phrase := by
  unfold moveByExtension at h
  dsimp only at h
  split at h
  · cases h
  · cases h
    rfl

theorem move?_moveFile {filePhrase phrase : String} {m : Move}
    (h : (moveFile store filePhrase phrase).action.move? = some m) :
    (m.target, m.create) = destination store phrase := by
  unfold moveFile at h
  dsimp only at h
  split at h
  · cases h
  · cases h
    rfl

/-- A command that asks for a move was read by one of the two rules for moves. -/
theorem found_of_move {text : String} {m : Move}
    (h : (recognise text store).action.move? = some m) :
    ∃ r found, firstRule (normalise text) = some (r, found) ∧
      (r = .moveByExtension ∨ r = .moveFile) ∧
      (m.target, m.create) = destination store (found.group 2) := by
  cases haction : (recognise text store).action with
  | moveByExtension =>
    obtain ⟨found, hfound, hread⟩ := recognise_of_tag (r := .moveByExtension) (by rw [haction]; rfl)
    rw [hread] at h
    exact ⟨.moveByExtension, found, hfound, .inl rfl, move?_moveByExtension h⟩
  | moveFile =>
    obtain ⟨found, hfound, hread⟩ := recognise_of_tag (r := .moveFile) (by rw [haction]; rfl)
    rw [hread] at h
    exact ⟨.moveFile, found, hfound, .inr rfl, move?_moveFile h⟩
  | _ =>
    rw [haction] at h
    cases h

end Command

end FolderTalk
