import FolderTalk.Proofs.Command.Grounded
import FolderTalk.Proofs.Engine.Forest
import Mathlib

/-!
# Names of sibling folders

Nothing in the tree itself forbids two folders of one name with one parent. It is when a command is
understood that a taken name is refused, and each rule looks in its own way: creating and renaming
look for the display form of the new name, which is what is stored; a move looks for the phrase as it
was typed, and stores its display form.

* `SiblingNamesDistinct` : no two folders with one parent have one name up to case;
* `obey`, `obeyAll` : commands, each understood against the tree that it is carried out on;
* `NamesTwice` : a move that creates a folder beside one of that name;
* `obeyAll_siblingNames` : the names stay distinct as long as there is no such move, and there is one
  only where the typed phrase and its display form are looked up as different names.
-/

namespace FolderTalk

open Text (toLower strip)

/-- The folders have different names up to case, if they have the same parent. -/
def Folder.Apart (f g : Folder) : Prop := f.parent = g.parent → toLower f.name ≠ toLower g.name

instance (f g : Folder) : Decidable (f.Apart g) := inferInstanceAs (Decidable (_ → _))

/-- No two folders with one parent have one name up to case. -/
def Store.SiblingNamesDistinct (s : Store) : Prop := s.folders.Pairwise Folder.Apart

instance : DecidablePred Store.SiblingNamesDistinct :=
  fun s => inferInstanceAs (Decidable (s.folders.Pairwise Folder.Apart))

theorem Store.seed_siblingNamesDistinct : Store.seed.SiblingNamesDistinct := by decide +kernel

namespace Engine

/-! ## Commands on a desk -/

/-- The desk and the sources after a command. -/
def obey (palette : List String) (p : Desk × Sources) (text : String) : Desk × Sources :=
  step palette p (Command.recognise text p.1.store)

/-- The desk and the sources after the commands, one after another. -/
def obeyAll (palette : List String) (texts : List String) (p : Desk × Sources) : Desk × Sources :=
  texts.foldl (obey palette) p

/-- The command's move is carried out and creates a top-level folder, and up to case there is a
top-level folder of that name already. -/
structure NamesTwice (palette : List String) (p : Desk × Sources) (text : String) (m : Move) :
    Prop where
  isMove : (Command.recognise text p.1.store).action.move? = some m
  creates : m.create = true
  carriedOut : (change palette p.2 p.1.store (Command.recognise text p.1.store).action).1.isSome
  taken : ∃ f ∈ p.1.store.folders, f.parent = none ∧ toLower f.name = toLower m.target.name

/-! ## What a change makes of the names -/

variable {palette : List String} {src left : Sources} {store s : Store} {action : Action}

theorem siblingNames_withFolder {f : Folder} (h : store.SiblingNamesDistinct)
    (hf : ∀ g ∈ store.folders, g.Apart f) : (store.withFolder f).SiblingNamesDistinct := by
  refine List.pairwise_append.mpr ⟨h, List.pairwise_singleton _ _, fun g hg f' hf' => ?_⟩
  obtain rfl := List.mem_singleton.mp hf'
  exact hf g hg

/-- The name of a folder that is created for its own sake is free where it comes to stand. -/
theorem apart_of_creation (hground : Command.Grounded store action) {name : String}
    {parent : Option String} (h : action.creation? = some (name, parent)) (id color : String) :
    ∀ g ∈ store.folders, g.Apart ⟨id, name, color, parent⟩ := by
  intro g hg hparent hname
  cases hground with
  | createNested _ phrase hfree =>
    cases h
    have hother := List.any_eq_false.mp hfree g hg
    rw [Bool.and_eq_true, beq_iff_eq, beq_iff_eq] at hother
    exact hother ⟨hname, hparent⟩
  | createSimple phrase hfree =>
    cases h
    obtain ⟨f, _, hfound, _⟩ :=
      Store.findFolder_of_name hg (hname.trans (Name.strip_toLower_displayForm phrase).symm)
    rw [hfree] at hfound
    cases hfound
  | _ => cases h

/-- A folder that has the new name of a renamed folder already shares its old name too. -/
theorem name_eq_of_renamed (hids : store.DistinctIds) {phrase : String} {f g : Folder}
    (hf : f ∈ store.folders) (hg : g ∈ store.folders)
    (hfree : ∀ h, store.findFolder (Name.displayForm phrase) = some h → h.id = f.id)
    (hname : toLower g.name = toLower (Name.displayForm phrase)) : toLower g.name = toLower f.name := by
  obtain ⟨h, hh, hfound, hhname⟩ :=
    Store.findFolder_of_name hg (hname.trans (Name.strip_toLower_displayForm phrase).symm)
  obtain rfl := hids.eq_of_id_eq hh hf (hfree h hfound)
  rw [hhname, Name.strip_toLower_displayForm, hname]

theorem siblingNames_renameFolder (h : store.SiblingNamesDistinct) (hids : store.DistinctIds)
    {phrase : String} {f : Folder} (hf : f ∈ store.folders)
    (hfree : ∀ g, store.findFolder (Name.displayForm phrase) = some g → g.id = f.id) :
    (renameFolder store f.id (Name.displayForm phrase)).SiblingNamesDistinct := by
  have hdistinct : store.folders.Pairwise fun a b => a.id ≠ b.id := List.pairwise_map.mp hids
  refine List.pairwise_map.mpr ((h.and hdistinct).imp_of_mem fun {a b} ha hb hab => ?_)
  obtain ⟨hapart, hne⟩ := hab
  intro hparent hname
  -- Of two folders at most one has the identifier, and whoever has the new name has the old one too.
  by_cases hfa : a.id = f.id
  · obtain rfl := hids.eq_of_id_eq ha hf hfa
    simp only [beq_self_eq_true, if_true, beq_eq_false_iff_ne.mpr hne.symm, Bool.false_eq_true,
      if_false] at hparent hname
    exact hapart hparent (name_eq_of_renamed hids hf hb hfree hname.symm).symm
  · by_cases hfb : b.id = f.id
    · obtain rfl := hids.eq_of_id_eq hb hf hfb
      simp only [beq_self_eq_true, if_true, beq_eq_false_iff_ne.mpr hne, Bool.false_eq_true,
        if_false] at hparent hname
      exact hapart hparent (name_eq_of_renamed hids hf ha hfree hname)
    · simp only [beq_eq_false_iff_ne.mpr hfa, beq_eq_false_iff_ne.mpr hfb, Bool.false_eq_true,
        if_false] at hparent hname
      exact hapart hparent hname

/-- **A change that a command asks for** keeps the names of siblings distinct, unless it is a move
that creates a folder beside one of that name. -/
theorem Changed.siblingNames (hchanged : Changed src store action s)
    (hground : Command.Grounded store action) (h : store.SiblingNamesDistinct)
    (hids : store.DistinctIds)
    (hmove : ∀ m, action.move? = some m → m.create = true →
      ∀ f ∈ store.folders, f.parent = none → toLower f.name ≠ toLower m.target.name) :
    s.SiblingNamesDistinct := by
  cases hchanged with
  | created name parent id color hcreation _ =>
    exact siblingNames_withFolder h (apart_of_creation hground hcreation id color)
  | moved m _ _ => exact h
  | movedAnew m id color hm hnew _ => exact siblingNames_withFolder h (hmove m hm hnew)
  | renamed id oldName name heq =>
    subst heq
    cases hground with
    | renameFolder hf phrase hfree => exact siblingNames_renameFolder h hids hf hfree
  | deleted id name _ => exact List.Pairwise.sublist List.filter_sublist h
  | kept _ => exact h

/-! ## Runs of commands -/

/-- A command whose change is carried out makes that change. -/
theorem obey_changed {p : Desk × Sources} {text : String}
    (htree : (Command.recognise text p.1.store).action.changesTree)
    (hcarried :
      (change palette p.2 p.1.store (Command.recognise text p.1.store).action).1.isSome) :
    Changed p.2 p.1.store (Command.recognise text p.1.store).action
      (obey palette p text).1.store := by
  obtain ⟨s, hs⟩ := Option.isSome_iff_exists.mp hcarried
  have hc : change palette p.2 p.1.store (Command.recognise text p.1.store).action = (some s, _) :=
    Prod.ext hs rfl
  unfold obey step
  rw [execute_of_changesTree _ _ _ _ htree, hc]
  exact change_came hc

theorem changesTree_of_move {m : Move} (h : action.move? = some m) : action.changesTree := by
  cases action with
  | moveFile | moveByExtension => rfl
  | _ => cases h

/-- After such a move there are two folders of one name at the top. -/
theorem NamesTwice.not_siblingNames {p : Desk × Sources} {text : String} {m : Move}
    (h : NamesTwice palette p text m) : ¬ (obey palette p text).1.store.SiblingNamesDistinct := by
  obtain ⟨hm, hnew, hcarried, f, hf, hparent, hname⟩ := h
  have hchanged := obey_changed (changesTree_of_move hm) hcarried
  obtain ⟨hold, _⟩ | ⟨_, id, color, _, htree⟩ := hchanged.cases_of_move hm
  · rw [hold] at hnew
    cases hnew
  rw [htree]
  intro hnames
  exact (List.pairwise_append.mp hnames).2.2 f hf _ (List.mem_singleton_self _) hparent hname

/-- Where such a move can come from: the phrase that was typed for its target is not found, though
the name that the folder gets from it is there. -/
theorem NamesTwice.phrase {p : Desk × Sources} {text : String} {m : Move}
    (h : NamesTwice palette p text m) :
    ∃ r found, Command.firstRule (Command.normalise text) = some (r, found) ∧
      (r = .moveByExtension ∨ r = .moveFile) ∧ p.1.store.findFolder (found.group 2) = none ∧
      strip (toLower (found.group 2)) ≠ toLower (Name.displayForm (found.group 2)) := by
  obtain ⟨hm, hnew, _, f, hf, _, hname⟩ := h
  obtain ⟨r, found, hfound, hr, htarget⟩ := Command.found_of_move hm
  cases hlookup : p.1.store.findFolder (found.group 2) with
  | some g =>
    rw [Command.destination_of_some hlookup, Prod.mk.injEq] at htarget
    rw [htarget.2] at hnew
    cases hnew
  | none =>
    rw [Command.destination_of_none hlookup, Prod.mk.injEq] at htarget
    refine ⟨r, found, hfound, hr, hlookup, fun hsame => ?_⟩
    rw [htarget.1, ← hsame] at hname
    obtain ⟨g, _, hg, _⟩ := Store.findFolder_of_name hf hname
    rw [hlookup] at hg
    cases hg

theorem obey_siblingNames {p : Desk × Sources} {text : String}
    (h : p.1.All fun s => s.SiblingNamesDistinct ∧ s.DistinctIds)
    (hno : ∀ m, ¬ NamesTwice palette p text m) :
    (obey palette p text).1.All fun s => s.SiblingNamesDistinct ∧ s.DistinctIds := by
  refine step_all_of_change ⟨Store.seed_siblingNamesDistinct, Store.seed_distinctIds⟩ _ _ _ ?_ h
  intro s left hc
  obtain ⟨hnames, hids⟩ := h.1
  refine ⟨?_, change_distinctIds _ _ _ _ _ _ hc hids⟩
  refine (change_came hc).siblingNames (Command.recognise_grounded text _) hnames hids ?_
  intro m hm hnew f hf hparent hname
  exact hno m ⟨hm, hnew, Option.isSome_of_mem (Prod.mk.inj hc).1, f, hf, hparent, hname⟩

theorem obeyAll_iff {texts : List String} {p : Desk × Sources}
    (h : p.1.All fun s => s.SiblingNamesDistinct ∧ s.DistinctIds) :
    (∀ before, before <+: texts → (obeyAll palette before p).1.store.SiblingNamesDistinct) ↔
      ∀ before text, before ++ [text] <+: texts →
        ¬ ∃ m, NamesTwice palette (obeyAll palette before p) text m :=
  forall_prefix_iff (f := obey palette)
    (P := fun p => p.1.All fun s => s.SiblingNamesDistinct ∧ s.DistinctIds)
    (Q := fun p => p.1.store.SiblingNamesDistinct)
    (R := fun p text => ∃ m, NamesTwice palette p text m)
    (fun _ hp => hp.1.1) (fun _ _ hp hno => obey_siblingNames hp (not_exists.mp hno))
    (fun _ _ _ ⟨_, htwice⟩ => htwice.not_siblingNames) texts h

/-- **Sibling folders keep different names** in every tree that commands lead to from the seed tree,
whatever the clock and the choice of colours do, exactly as long as no command creates a folder for
a move beside one of that name. Such a command was read by one of the two rules for moves, and looks
for the phrase that was typed, which is not found, while the display form is stored. -/
theorem obeyAll_siblingNames (palette : List String) (src : Sources) (limit : History.Limit)
    (selected : Option String) (texts : List String) :
    let start : Desk := ⟨Store.seed, .empty limit.val limit.property, selected⟩
    ((∀ before, before <+: texts →
        (obeyAll palette before (start, src)).1.store.SiblingNamesDistinct) ↔
      ∀ before text, before ++ [text] <+: texts →
        ∀ m, ¬ NamesTwice palette (obeyAll palette before (start, src)) text m) ∧
    ∀ (p : Desk × Sources) (text : String) (m : Move), NamesTwice palette p text m →
      ∃ r found, Command.firstRule (Command.normalise text) = some (r, found) ∧
        (r = .moveByExtension ∨ r = .moveFile) ∧ p.1.store.findFolder (found.group 2) = none ∧
        strip (toLower (found.group 2)) ≠ toLower (Name.displayForm (found.group 2)) := by
  intro start
  have hstart : start.All fun s => s.SiblingNamesDistinct ∧ s.DistinctIds :=
    Desk.all_seed ⟨Store.seed_siblingNamesDistinct, Store.seed_distinctIds⟩ limit selected
  refine ⟨?_, fun p text m h => h.phrase⟩
  rw [obeyAll_iff hstart]
  simp only [not_exists]

/-- With two blanks in a folder's name, moving a second file there makes a second folder of that
name. -/
theorem obeyAll_two_blanks :
    let src : Sources := { clock := fun _ => some 1000, colorFrom := fun _ colors => colors.head? }
    let start : Desk := ⟨Store.seed, .empty 20 (by decide), none⟩
    let texts : List String := ["move vacation.png to my  folder", "move song.mp3 to my  folder"]
    (obeyAll Palette.builtIn texts (start, src)).1.store.folders.drop 3 =
        [⟨"my-folder", "My folder", "bg-blue-500", none⟩,
         ⟨"my-folder-1000", "My folder", "bg-blue-500", none⟩] ∧
      ¬ (obeyAll Palette.builtIn texts (start, src)).1.store.SiblingNamesDistinct := by
  decide +kernel

end Engine

end FolderTalk
