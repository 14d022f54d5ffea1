import FolderTalk.Proofs.Engine.NewName

/-!
# The same creation once more

A creation is refused if its name is taken where the folder would come to stand. Said again, it meets
the folder that it created. At the top this is the end of it. Inside another folder the name is taken
only if the command still means the same parent: names go before identifiers, and the new folder may
have just the name by which the command calls its parent.

* `found_of_creation` : what the two rules for creations have looked up;
* `Usurps` : a new folder that the command takes for its parent from now on;
* `obey_create_again` : a creation said twice is refused the second time, unless its folder usurps
  the place of the parent; and then the second one is a creation inside it.
-/

namespace FolderTalk

open Text (toLower strip trim)
open Command (Small Rule Found firstRule normalise recognise hasSibling)

theorem Text.strip_toLower_strip {phrase : String} (h : Small phrase.toList) :
    strip (toLower (strip phrase)) = strip phrase := by
  have htrim : Small (strip phrase).toList := by
    rw [strip, String.toList_ofList]
    exact fun c hc => h c ((Text.trim_isInfix phrase.toList).subset hc)
  have hlower : toLower (strip phrase) = strip phrase := by
    rw [toLower, Text.lower_of_small htrim, String.ofList_toList]
  have htrimmed : trim (trim phrase.toList) = trim phrase.toList :=
    (Text.trimmed_trim phrase.toList).trim_eq
  rw [hlower, strip, strip, String.toList_ofList, htrimmed]

namespace Command
variable {store : Store} {name phrase newPhrase : String} {parent : Option String} {new f : Folder}

theorem creation_of_createNested
    (h : (createNested store newPhrase phrase).action.creation? = some (name, parent)) :
    name = Name.displayForm newPhrase ∧
      ∃ f, store.findFolder (strip phrase) = some f ∧ parent = some f.id := by
  unfold createNested at h
  dsimp only at h
  split at h
  · cases h
  · next f hf =>
    split at h
    · cases h
    · cases h
      exact ⟨rfl, f, hf, rfl⟩

theorem creation_of_createSimple
    (h : (createSimple store phrase).action.creation? = some (name, parent)) :
    name = Name.displayForm phrase ∧ store.findFolder name = none ∧ parent = none := by
  unfold createSimple at h
  dsimp only at h
  split at h
  · cases h
  · next hfree =>
    cases h
    exact ⟨rfl, Option.not_isSome_iff_eq_none.mp hfree, rfl⟩

/-- What a command looked up that asks for a creation: its name at the top, its parent otherwise. -/
theorem found_of_creation {text : String}
    (h : (recognise text store).action.creation? = some (name, parent)) :
    ∃ rule found, firstRule (normalise text) = some (rule, found) ∧
      name = Name.displayForm (found.group 1) ∧
      (rule = .createSimple ∧ store.findFolder name = none ∧ parent = none ∨
        rule = .createNested ∧
          ∃ f, store.findFolder (strip (found.group 2)) = some f ∧ parent = some f.id) := by
  cases haction : (recognise text store).action with
  | createSimple _ =>
    obtain ⟨found, hfound, hread⟩ := recognise_of_tag (r := .createSimple) (by rw [haction]; rfl)
    rw [hread] at h
    obtain ⟨hname, hfree⟩ := creation_of_createSimple h
    exact ⟨.createSimple, found, hfound, hname, .inl ⟨rfl, hfree⟩⟩
  | createNested _ _ _ =>
    obtain ⟨found, hfound, hread⟩ := recognise_of_tag (r := .createNested) (by rw [haction]; rfl)
    rw [hread] at h
    obtain ⟨hname, hparent⟩ := creation_of_createNested h
    exact ⟨.createNested, found, hfound, hname, .inr ⟨rfl, hparent⟩⟩
  | _ =>
    rw [haction] at h
    cases h

theorem hasSibling_withFolder {id : String} :
    hasSibling (store.withFolder new) name id =
      (hasSibling store name id || (toLower new.name == toLower name && new.parent == some id)) := by
  simp [hasSibling, Store.withFolder]

theorem createSimple_of_some (h : store.findFolder (Name.displayForm phrase) = some f) :
    createSimple store phrase = nameTaken (Name.displayForm phrase) := by
  simp [createSimple, h]

theorem createNested_of_some (h : store.findFolder (strip phrase) = some f) :
    createNested store newPhrase phrase =
      if hasSibling store (Name.displayForm newPhrase) f.id then
        nameTakenInside (Name.displayForm newPhrase) f.name
      else ⟨.createNested (Name.displayForm newPhrase) f.id f.name,
        "Created \"" ++ Name.displayForm newPhrase ++ "\" folder inside " ++ f.name ++ "."⟩ := by
  simp only [createNested, h]

end Command

namespace Engine

open Command (createNested createSimple recognise_eq_intentOf)

variable {palette : List String} {store s : Store} {p : Desk × Sources} {text name : String}
  {rule : Rule} {found : Found} {new parent : Folder}

theorem obey_of_info (h : (recognise text p.1.store).action = .info) : obey palette p text = p := by
  unfold obey step execute
  rw [h]

/-- The folder that a nested creation adds has the very name by which the command calls its parent. No
folder had this name, and none of it is inside the new folder. -/
structure Usurps (store : Store) (rule : Rule) (found : Found) (new : Folder) : Prop where
  nested : rule = .createNested
  called : toLower new.name = strip (found.group 2)
  unnamed : ∀ g ∈ store.folders, toLower g.name ≠ strip (found.group 2)
  empty : hasSibling store new.name new.id = false

/-- The identifier of a folder inside the one that a phrase finds is too long for the phrase, so only
its name can come first. -/
theorem Gains.outranks_parent_iff {phrase : String} (h : Gains store name (some parent.id) new s)
    (hfound : store.findFolder phrase = some parent) :
    store.Outranks phrase new ↔ toLower new.name = strip (toLower phrase) ∧
      ∀ g ∈ store.folders, toLower g.name ≠ strip (toLower phrase) := by
  refine ⟨fun houtranks => ?_, fun ⟨hcalled, hno⟩ => .name hcalled hno⟩
  cases houtranks with
  | name hcalled hno => exact ⟨hcalled, hno⟩
  | id hid hno hnoId =>
    have hparent := Store.findFolder_mem hfound
    rcases Store.answersTo_of_findFolder hfound with hname | hsame | hpart
    · exact absurd hname (hno parent hparent)
    · exact absurd hsame (hnoId parent hparent)
    · obtain ⟨stamp, hstamped⟩ := h.stamped
      obtain ⟨rest, _, hlonger⟩ := stampedId_idBase_some name parent.id stamp
      have hlength := hpart.length_le
      rw [← hid, hstamped, hlonger] at hlength
      simp only [String.toList_append, List.length_append] at hlength
      have hhyphen : "-".toList.length = 1 := rfl
      omega

/-- At the top the second creation is refused. -/
theorem Gains.createSimple_again {phrase : String}
    (h : Gains store (Name.displayForm phrase) none new s)
    (hnone : store.findFolder (Name.displayForm phrase) = none) :
    createSimple s phrase = Command.nameTaken (Name.displayForm phrase) :=
  Command.createSimple_of_some (h.findFolder_name (Name.strip_toLower_displayForm phrase) hnone)

/-- Inside the parent it is refused as long as the phrase means this parent. -/
theorem Gains.createNested_again {newPhrase phrase : String}
    (h : Gains store (Name.displayForm newPhrase) (some parent.id) new s)
    (hfound : store.findFolder (strip phrase) = some parent)
    (hstill : ¬ store.Outranks (strip phrase) new) :
    createNested s newPhrase phrase =
      Command.nameTakenInside (Name.displayForm newPhrase) parent.name := by
  have hparent : s.findFolder (strip phrase) = some parent := by
    rw [h.tree]
    exact Store.findFolder_withFolder_of_not_outranks hfound hstill
  have htaken : hasSibling s (Name.displayForm newPhrase) parent.id = true := by
    rw [h.tree, Command.hasSibling_withFolder, h.name_eq, h.parent_eq]
    simp
  rw [Command.createNested_of_some hparent, if_pos htaken]

/-- Otherwise the phrase means the new folder, and what is in the way is what is inside it. -/
theorem Gains.createNested_inside {newPhrase phrase : String}
    (h : Gains store (Name.displayForm newPhrase) (some parent.id) new s)
    (hparent : parent ∈ store.folders) (hnow : store.Outranks (strip phrase) new) :
    createNested s newPhrase phrase =
      if hasSibling store new.name new.id then Command.nameTakenInside new.name new.name
      else ⟨.createNested new.name new.id new.name,
        "Created \"" ++ new.name ++ "\" folder inside " ++ new.name ++ "."⟩ := by
  have hself : s.findFolder (strip phrase) = some new := by
    rw [h.tree]
    exact Store.findFolder_withFolder_of_outranks hnow
  have hnotOwn : (new.parent == some new.id) = false := by
    rw [h.parent_eq, beq_eq_false_iff_ne]
    exact fun hsame => h.fresh (Option.some.inj hsame ▸ List.mem_map_of_mem hparent)
  have hinside : hasSibling s new.name new.id = hasSibling store new.name new.id := by
    rw [h.tree, Command.hasSibling_withFolder, hnotOwn, Bool.and_false, Bool.or_false]
  rw [Command.createNested_of_some hself, ← h.name_eq, hinside]

/-- **A creation said twice.** A command that asks for a creation, nothing that it draws failing, adds
one folder. Said again it is refused and nothing changes, unless that folder usurps the place of the
parent: then it asks for a folder of the same name inside the one that it added. -/
theorem obey_create_again (palette : List String) (p : Desk × Sources) (text : String)
    (hcreate : (recognise text p.1.store).action.creation?.isSome)
    (hgiven : Supplied palette p text) :
    ∃ rule found new parent, firstRule (normalise text) = some (rule, found) ∧
      (rule = .createNested ∨ rule = .createSimple) ∧
      Gains p.1.store (Name.displayForm (found.group 1)) parent new (obey palette p text).1.store ∧
      (¬ Usurps p.1.store rule found new →
        (recognise text (obey palette p text).1.store).action = .info ∧
          obey palette (obey palette p text) text = obey palette p text) ∧
      (Usurps p.1.store rule found new →
        (recognise text (obey palette p text).1.store).action =
          .createNested new.name new.id new.name) := by
  obtain ⟨⟨name, parent⟩, hcreation⟩ := Option.isSome_iff_exists.mp hcreate
  obtain ⟨rule, found, hfound, rfl, hcases⟩ := Command.found_of_creation hcreation
  obtain ⟨new, hgains⟩ := hgiven.gains hcreation
  refine ⟨rule, found, new, parent, hfound, ?_⟩
  rw [recognise_eq_intentOf hfound]
  have hrefused : (Command.intentOf rule found (obey palette p text).1.store).action = .info →
      obey palette (obey palette p text) text = obey palette p text :=
    fun hinfo => obey_of_info (by rw [recognise_eq_intentOf hfound, hinfo])
  rcases hcases with ⟨rfl, hnone, rfl⟩ | ⟨rfl, f, hf, rfl⟩
  · have hinfo : (Command.intentOf .createSimple found (obey palette p text).1.store).action = .info :=
      congrArg Intent.action (hgains.createSimple_again hnone)
    refine ⟨.inr rfl, hgains, fun _ => ⟨hinfo, hrefused hinfo⟩, fun husurps => ?_⟩
    cases husurps.nested
  · have hfirst := hgains.outranks_parent_iff hf
    rw [Text.strip_toLower_strip (small_group hfound 2)] at hfirst
    refine ⟨.inl rfl, hgains, fun hno => ?_, fun husurps => ?_⟩
    · have hinfo :
          (Command.intentOf .createNested found (obey palette p text).1.store).action = .info := by
        by_cases hnow : p.1.store.Outranks (strip (found.group 2)) new
        · obtain ⟨hcalled, hunnamed⟩ := hfirst.mp hnow
          have hfull : hasSibling p.1.store new.name new.id = true :=
            Bool.eq_true_of_not_eq_false fun hempty => hno ⟨rfl, hcalled, hunnamed, hempty⟩
          rw [Command.intentOf, hgains.createNested_inside (Store.findFolder_mem hf) hnow, if_pos hfull]
          rfl
        · rw [Command.intentOf, hgains.createNested_again hf hnow]
          rfl
      exact ⟨hinfo, hrefused hinfo⟩
    · have hnow := hfirst.mpr ⟨husurps.called, husurps.unnamed⟩
      rw [Command.intentOf, hgains.createNested_inside (Store.findFolder_mem hf) hnow, husurps.empty]
      rfl

/-- A folder created twice inside one that is given by a part of its identifier. -/
theorem obey_create_again_part :
    let src : Sources := { clock := fun _ => some 1000, colorFrom := fun _ colors => colors.head? }
    let p : Desk × Sources := (⟨Store.seed, .empty 20 (by decide), none⟩, src)
    let text := "create folder photos inside med"
    (recognise text p.1.store).action.creation?.isSome ∧ Supplied Palette.builtIn p text ∧
      (recognise text (obey Palette.builtIn p text).1.store).action = .info ∧
      obey Palette.builtIn (obey Palette.builtIn p text) text = obey Palette.builtIn p text := by
  intro src p text
  have hcreate : (recognise text p.1.store).action.creation?.isSome := by decide +kernel
  have hgiven : Supplied Palette.builtIn p text := by decide +kernel
  have hread : firstRule (normalise text) = some (.createNested,
      ⟨text.toList, ["photos".toList, "med".toList]⟩) := by decide +kernel
  have hname : toLower (Name.displayForm (String.ofList "photos".toList)) ≠
      strip (String.ofList "med".toList) := by decide +kernel
  obtain ⟨rule, found, new, parent, hfound, _, hgains, hrefused, _⟩ :=
    obey_create_again Palette.builtIn p text hcreate hgiven
  cases hread.symm.trans hfound
  exact ⟨hcreate, hgiven, hrefused fun husurps => hname (hgains.name_eq ▸ husurps.called)⟩

/-- Inside a folder that has another name than its identifier says, the same creation makes a second
folder, inside the first one. -/
theorem obey_create_again_renamed :
    let src : Sources := { clock := fun _ => some 1000, colorFrom := fun _ colors => colors.head? }
    let p : Desk × Sources := obey Palette.builtIn
      (⟨Store.seed, .empty 20 (by decide), none⟩, src) "rename images to pictures"
    let text := "create folder images inside images"
    p.1.store.DistinctIds ∧ (recognise text p.1.store).action.creation?.isSome ∧
      Supplied Palette.builtIn p text ∧
      (recognise text (obey Palette.builtIn p text).1.store).action ≠ .info ∧
      (obey Palette.builtIn (obey Palette.builtIn p text) text).1.store.folderIds =
        ["images", "documents", "media", "images-images-1000", "images-images-1000-images-1000"] := by
  decide +kernel

end Engine

end FolderTalk
