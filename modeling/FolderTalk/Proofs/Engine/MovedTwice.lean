import FolderTalk.Proofs.Engine.Moves
import FolderTalk.Proofs.Json.Cutting
import FolderTalk.Proofs.Text.NameForms

/-!
# The same move once more

A move that creates its folder stores the display form of the phrase and an identifier made from its
slug, but looks for the phrase as it was typed. So the same command said again may not find the folder
that it created.

* `Folder.AnswersTo` : what makes a folder an answer to a phrase, whichever tier of the lookup it is;
* `answersTo_new_iff` : a new folder answers to the phrase that it was created for exactly if the
  phrase has no white space inside, or is the small form of its display form;
* `obey_move_again` : a move said twice leaves what it left the first time exactly if the folder was
  there before or the new one answers to the phrase.
-/

namespace FolderTalk

open Text (toLower strip isBlank isStretch)
open Command (Solid Small Rule Found firstRule normalise recognise intends)

/-! ## Lookups -/

theorem Text.isStretch_iff {part text : List Char} : isStretch part text = true ↔ part <:+: text := by
  induction text with
  | nil => simp [isStretch, List.infix_nil]
  | cons c cs ih => rw [isStretch, Bool.or_eq_true, ih, List.isPrefixOf_iff_prefix, List.infix_cons_iff]

/-- One of the three tiers of the lookup takes the folder for the phrase. -/
def Folder.AnswersTo (f : Folder) (phrase : String) : Prop :=
  toLower f.name = strip (toLower phrase) ∨ f.id = strip (toLower phrase) ∨
    (strip (toLower phrase)).toList <:+: f.id.toList

namespace Store
variable {s : Store} {phrase : String} {f : Folder}

theorem findFolder_isSome_iff :
    (s.findFolder phrase).isSome ↔ ∃ f ∈ s.folders, f.AnswersTo phrase := by
  simp only [findFolder, Command.isSome_orElse, Bool.or_eq_true, List.find?_isSome, beq_iff_eq,
    Text.isStretch_iff, Folder.AnswersTo, ← exists_or, ← and_or_left]

theorem findFolder_eq_none_iff :
    s.findFolder phrase = none ↔ ∀ f ∈ s.folders, ¬ f.AnswersTo phrase := by
  rw [← Option.not_isSome_iff_eq_none, findFolder_isSome_iff]
  simp only [not_exists, not_and]

theorem answersTo_of_findFolder (h : s.findFolder phrase = some f) : f.AnswersTo phrase := by
  unfold findFolder at h
  dsimp only at h
  rcases Command.orElse_eq_some.mp h with h | ⟨_, h⟩
  · exact .inl (by simpa using List.find?_some h)
  · rcases Command.orElse_eq_some.mp h with h | ⟨_, h⟩
    · exact .inr (.inl (by simpa using List.find?_some h))
    · exact .inr (.inr (Text.isStretch_iff.mp (by simpa using List.find?_some h)))

theorem findFolder_congr {s' : Store} (h : s'.folders = s.folders) (phrase : String) :
    s'.findFolder phrase = s.findFolder phrase := by
  rw [findFolder, h, findFolder]

end Store

/-! ## What answers to the phrase that it was created for -/

namespace Text

theorem trim_isInfix (t : List Char) : trim t <:+: t :=
  ((List.rdropWhile_prefix isBlank (trimStart t)).isInfix).trans (List.dropWhile_suffix isBlank).isInfix

end Text

namespace Name

/-- The slug of a phrase in small letters without white space inside is what a lookup of it looks
for. -/
theorem slug_of_solid {phrase : String} (hsmall : Small phrase.toList)
    (h : Solid (strip (toLower phrase)).toList) : slug phrase = strip (toLower phrase) := by
  have hlower : toLower phrase = phrase := by
    rw [toLower, Text.lower_of_small hsmall, String.ofList_toList]
  have htrim : Small (strip phrase).toList := by
    rw [strip, String.toList_ofList]
    exact fun c hc => hsmall c ((Text.trim_isInfix phrase.toList).subset hc)
  rw [hlower] at h ⊢
  calc slug phrase = slug (strip phrase) :=
        slug_eq_of_words (by rw [strip, String.toList_ofList, Text.words_trim])
    _ = strip phrase := slug_eq_self h htrim

end Name

namespace Engine
variable {src : Sources} {store : Store} {phrase : String}

theorem solid_stampedId {base : String} (h : Solid base.toList) (stamp : Int) :
    Solid (stampedId base stamp).toList := by
  have hdigits : ∀ c ∈ (toString stamp).toList, isBlank c = false := by
    intro c hc
    rw [Json.toList_toString, List.mem_append] at hc
    rcases hc with hc | hc
    · split at hc
      · rw [List.mem_singleton.mp hc]
        decide
      · cases hc
    · have hdigit := Json.isDigit_of_mem_toDigits hc
      simp only [Json.isDigit, Bool.and_eq_true, decide_eq_true_eq, Char.le_def,
        UInt32.le_iff_toNat_le, Char.toNat_val] at hdigit
      have hzero : '0'.toNat = 48 := rfl
      have hnine : '9'.toNat = 57 := rfl
      exact Text.isBlank_eq_false (by omega) (by omega)
  have hhyphen : Solid "-".toList := by decide
  rw [stampedId, String.toList_append, String.toList_append]
  exact List.forall_mem_append.mpr ⟨List.forall_mem_append.mpr ⟨h, hhyphen⟩, hdigits⟩

/-- **A new folder answers to its phrase** exactly if the phrase has no white space inside, or is what
becomes of its display form in small letters. -/
theorem answersTo_new_iff {id color : String} (hsmall : Small phrase.toList)
    (hid : TargetId src store ⟨Name.slug phrase, Name.displayForm phrase⟩ id) :
    (⟨id, Name.displayForm phrase, color, none⟩ : Folder).AnswersTo phrase ↔
      Solid (strip (toLower phrase)).toList ∨
        toLower (Name.displayForm phrase) = strip (toLower phrase) := by
  have hslug : ∃ rest, id = Name.slug phrase ++ rest ∧ Solid id.toList := by
    rcases hid with ⟨_, rfl⟩ | ⟨_, hunique⟩
    · exact ⟨"", (String.append_empty).symm, Name.solid_slug phrase⟩
    · obtain ⟨stamp, rfl⟩ := eq_stampedId_of_uniqueId? hunique
      exact ⟨"-" ++ toString stamp, String.append_assoc .., solid_stampedId (Name.solid_slug phrase) _⟩
  obtain ⟨rest, rfl, hsolid⟩ := hslug
  constructor
  · rintro (hname | hid | hstretch)
    · exact .inr hname
    · exact .inl (hid ▸ hsolid)
    · exact .inl fun c hc => hsolid c (hstretch.subset hc)
  · rintro (hneedle | hname)
    · refine .inr (.inr ?_)
      rw [← Name.slug_of_solid hsmall hneedle, String.toList_append]
      exact (List.prefix_append _ _).isInfix
    · exact .inl hname

/-! ## The groups of a command -/

/-- What a rule keeps of a command is in small letters. -/
theorem small_group {text : String} {rule : Rule} {found : Found}
    (h : firstRule (normalise text) = some (rule, found)) (n : Nat) :
    Small (found.group n).toList := by
  have hcommand : Small (normalise text) :=
    fun c hc => Text.small_lower text.toList c ((Text.trim_isInfix _).subset hc)
  have hwhole : found.whole <:+: normalise text ∧ ∃ p : Command.Pattern,
      p.Captures found.whole found.groups := by
    have hfind := Command.find_of_firstRule h
    rw [Rule.find] at hfind
    split at hfind
    · obtain ⟨later, htext, hcaptures⟩ := Command.Pattern.matchHere_captures hfind
      exact ⟨htext ▸ (List.prefix_append _ later).isInfix, _, hcaptures⟩
    · obtain ⟨before, later, htext, hcaptures⟩ := Command.Pattern.search_captures hfind
      exact ⟨htext ▸ ⟨before, later, rfl⟩, _, hcaptures⟩
  obtain ⟨hpiece, p, hcaptures⟩ := hwhole
  rw [Found.group, String.toList_ofList, List.getD_eq_getElem?_getD]
  cases hgroup : found.groups[n - 1]? with
  | none => exact List.forall_mem_nil _
  | some g =>
    have hg := hcaptures.isInfix (List.mem_of_getElem? hgroup)
    exact fun c hc => hcommand c ((hg.trans hpiece).subset hc)

/-! ## The second time -/

variable {src' : Sources} {s s' : Store} {rule : Rule} {found : Found} {t t' : Folder}

theorem intends_map {g : FileEntry → FileEntry} (hname : ∀ f, (g f).name = f.name)
    (hs : s.files = store.files.map g) (f : FileEntry) :
    intends s rule found (g f) = intends store rule found f := by
  unfold intends
  split
  · rw [FileEntry.extension_eq_of_name (hname f)]
  · rw [Store.findFile, hs, List.find?_map, Store.findFile, Option.any_map]
    simp only [Function.comp_def, hname]
  · rfl

section Again
variable (h : MovedTo src store rule found t s)
include h

/-- Moved files are files of the same names, so the command is about the same ones. -/
theorem MovedTo.intends_iff {f : FileEntry} :
    intends s rule found (if intends store rule found f then { f with folder := some t.id } else f) =
      intends store rule found f :=
  intends_map (fun f => by split <;> rfl) h.files_eq f

theorem MovedTo.exists_intended :
    (∃ f ∈ s.files, intends s rule found f) ↔ ∃ f ∈ store.files, intends store rule found f := by
  rw [h.files_eq]
  simp only [List.mem_map, exists_exists_and_eq_and, h.intends_iff]

/-- A second move of the files into the same folder does nothing. -/
theorem MovedTo.moveFiles_eq : moveFiles s (intends s rule found) t.id = s := by
  have hfiles : s.files.map (fun f =>
      if intends s rule found f then { f with folder := some t.id } else f) = s.files := by
    rw [h.files_eq, List.map_map]
    refine List.map_congr_left fun f _ => ?_
    rw [Function.comp_apply, h.intends_iff]
    by_cases hf : intends store rule found f = true
    · simp only [hf, if_true]
    · simp only [hf, Bool.false_eq_true, if_false]
  rw [moveFiles, hfiles]

/-- What the phrase finds after the move can only be the folder that the files were moved to. -/
theorem MovedTo.eq_of_findFolder {f : Folder} (hf : s.findFolder (found.group 2) = some f) :
    f = t := by
  cases hlookup : store.findFolder (found.group 2) with
  | some g =>
    obtain ⟨rfl, hfolders⟩ := h.folders_of_some hlookup
    rw [Store.findFolder_congr hfolders, hlookup] at hf
    exact (Option.some.inj hf).symm
  | none =>
    obtain ⟨_, _, _, hfolders⟩ := h.folders_of_none hlookup
    have hmem := Store.findFolder_mem hf
    rw [hfolders, List.mem_append, List.mem_singleton] at hmem
    rcases hmem with hold | hnew
    · exact absurd (Store.answersTo_of_findFolder hf) (Store.findFolder_eq_none_iff.mp hlookup f hold)
    · exact hnew

/-- **The second move** leaves the tree as the first one did exactly if the folder of the first answers
to the phrase. -/
theorem MovedTo.again_iff (h' : MovedTo src' s rule found t' s') :
    s' = s ↔ t.AnswersTo (found.group 2) := by
  cases h' with
  | there f hf =>
    obtain rfl := h.eq_of_findFolder hf
    exact iff_of_true h.moveFiles_eq (Store.answersTo_of_findFolder hf)
  | anew id color hnone _ =>
    refine iff_of_false (fun hsame => ?_) (Store.findFolder_eq_none_iff.mp hnone t h.target_mem)
    have hlength := congrArg (fun s => s.folders.length) hsame
    simp [moveFiles, Store.withFolder] at hlength

/-- The folder of a move answers to the phrase if it was there before, and otherwise by the phrase
itself. -/
theorem MovedTo.answersTo_iff (hsmall : Small (found.group 2).toList) :
    t.AnswersTo (found.group 2) ↔
      (store.findFolder (found.group 2)).isSome ∨ Solid (strip (toLower (found.group 2))).toList ∨
        toLower (Name.displayForm (found.group 2)) = strip (toLower (found.group 2)) := by
  cases h with
  | there f hf =>
    exact iff_of_true (Store.answersTo_of_findFolder hf) (.inl (Option.isSome_of_mem hf))
  | anew id color hnone hid =>
    rw [answersTo_new_iff hsmall hid, hnone]
    simp

end Again

/-- Nothing that carrying out the command draws fails. -/
def Supplied (palette : List String) (p : Desk × Sources) (text : String) : Prop :=
  ¬ Fails palette p.2 p.1.store (recognise text p.1.store).action

instance (palette : List String) (p : Desk × Sources) (text : String) :
    Decidable (Supplied palette p text) := inferInstanceAs (Decidable (¬ _))

/-- A command that changes the tree and draws nothing in vain makes its change. -/
theorem Supplied.changed {palette : List String} {p : Desk × Sources} {text : String}
    (h : Supplied palette p text) (htree : (recognise text p.1.store).action.changesTree) :
    Changed p.2 p.1.store (recognise text p.1.store).action (obey palette p text).1.store :=
  obey_changed htree (Option.isSome_iff_ne_none.mpr (mt change_eq_none_iff.mp h))

theorem obey_movedTo {palette : List String} {p : Desk × Sources} {text : String}
    (hfound : firstRule (normalise text) = some (rule, found))
    (hmove : (recognise text p.1.store).action.move?.isSome) (h : Supplied palette p text) :
    ∃ t, MovedTo p.2 p.1.store rule found t (obey palette p text).1.store := by
  obtain ⟨m, hm⟩ := Option.isSome_iff_exists.mp hmove
  exact movedTo_of_changed hfound hm (h.changed (changesTree_of_move hm))

/-- **A move said twice.** If nothing that it draws fails, then the second time leaves the files and
the folders that the first time left exactly if the phrase found a folder before, or has no white
space inside, or is what becomes of its display form in small letters. Otherwise the second time
creates one more folder. -/
theorem obey_move_again (palette : List String) (p : Desk × Sources) (text : String)
    (hmove : (recognise text p.1.store).action.move?.isSome)
    (hfirst : Supplied palette p text) (hagain : Supplied palette (obey palette p text) text) :
    ∃ rule found, firstRule (normalise text) = some (rule, found) ∧
      (rule = .moveByExtension ∨ rule = .moveFile) ∧
      ((obey palette (obey palette p text) text).1.store = (obey palette p text).1.store ↔
        (p.1.store.findFolder (found.group 2)).isSome ∨
          Solid (strip (toLower (found.group 2))).toList ∨
          toLower (Name.displayForm (found.group 2)) = strip (toLower (found.group 2))) := by
  obtain ⟨m, hm⟩ := Option.isSome_iff_exists.mp hmove
  obtain ⟨rule, found, hfound, hrule, _⟩ := Command.found_of_move hm
  refine ⟨rule, found, hfound, hrule, ?_⟩
  obtain ⟨t, h⟩ := obey_movedTo hfound hmove hfirst
  have hmove' : (recognise text (obey palette p text).1.store).action.move?.isSome := by
    rw [Command.move?_isSome_iff hfound hrule, h.exists_intended,
      ← Command.move?_isSome_iff hfound hrule]
    exact hmove
  obtain ⟨t', h'⟩ := obey_movedTo hfound hmove' hagain
  rw [h.again_iff h', h.answersTo_iff (small_group hfound 2)]

/-- Files moved twice to a folder that is new the first time, under a name of two words. -/
theorem obey_move_again_two_words :
    let src : Sources := { clock := fun _ => some 1000, colorFrom := fun _ colors => colors.head? }
    let p : Desk × Sources := (⟨Store.seed, .empty 20 (by decide), none⟩, src)
    let text := "move all png files to my pictures"
    (recognise text p.1.store).action.move?.isSome ∧ Supplied Palette.builtIn p text ∧
      Supplied Palette.builtIn (obey Palette.builtIn p text) text ∧
      (obey Palette.builtIn (obey Palette.builtIn p text) text).1.store =
        (obey Palette.builtIn p text).1.store := by
  intro src p text
  have hmove : (recognise text p.1.store).action.move?.isSome := by decide +kernel
  have hfirst : Supplied Palette.builtIn p text := by decide +kernel
  have hagain : Supplied Palette.builtIn (obey Palette.builtIn p text) text := by decide +kernel
  have hread : firstRule (normalise text) = some (.moveByExtension,
      ⟨"move all png files to my pictures".toList, ["png".toList, "my pictures".toList]⟩) := by
    decide +kernel
  obtain ⟨rule, found, hfound, _, hiff⟩ := obey_move_again Palette.builtIn p text hmove hfirst hagain
  cases hread.symm.trans hfound
  exact ⟨hmove, hfirst, hagain, hiff.mpr (.inr (.inr (by decide +kernel)))⟩

/-- With two blanks in a folder's name, the same move makes one more folder. -/
theorem obey_move_again_two_blanks :
    let src : Sources := { clock := fun _ => some 1000, colorFrom := fun _ colors => colors.head? }
    let p : Desk × Sources := (⟨Store.seed, .empty 20 (by decide), none⟩, src)
    let text := "move vacation.png to my  folder"
    p.1.store.DistinctIds ∧ (recognise text p.1.store).action.move?.isSome ∧
      (obey Palette.builtIn (obey Palette.builtIn p text) text).1.store ≠
        (obey Palette.builtIn p text).1.store := by
  decide +kernel

end Engine

end FolderTalk
