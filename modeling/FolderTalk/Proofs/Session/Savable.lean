import FolderTalk.Proofs.Json.Writing
import FolderTalk.Proofs.Session.Saving

/-!
# What can be saved

A save fails only at a whole number that has too many digits for a text: the identifier of a file or
of a message, or the height of the panel. A part that is saved already is not written again, so it
cannot fail.

* `SessionState.Fits` : a part of a state can be written;
* `Savable` : a save meets no fault (`save_eq_none_iff`), and otherwise it is this one
  (`save_fault`).
-/

namespace FolderTalk

open Json

/-- All whole numbers of a part of a state have texts. -/
def SessionState.Fits (s : SessionState) : StateKey → Prop
  | .files => ∀ f ∈ s.store.files, Numeral.Fits f.id
  | .messages => ∀ m ∈ s.messages, Numeral.Fits m.id
  | .history => ∀ t ∈ s.history, ∀ f ∈ t.files, Numeral.Fits f.id
  | .chatHeight => Numeral.Fits s.chatHeight
  | .folders | .selectedFolder => True

instance SessionState.decidableFits (s : SessionState) : ∀ key, Decidable (s.Fits key)
  | .files => inferInstanceAs (Decidable (∀ f ∈ s.store.files, Numeral.Fits f.id))
  | .messages => inferInstanceAs (Decidable (∀ m ∈ s.messages, Numeral.Fits m.id))
  | .history => inferInstanceAs (Decidable (∀ t ∈ s.history, ∀ f ∈ t.files, Numeral.Fits f.id))
  | .chatHeight => inferInstanceAs (Decidable (Numeral.Fits s.chatHeight))
  | .folders | .selectedFolder => inferInstanceAs (Decidable True)

/-! ## The whole numbers of the parts -/

theorem fitting_list {α : Type} {toValue : α → Value} {as : List α} :
    Fitting (.list (as.map toValue)) ↔ ∀ a ∈ as, Fitting (toValue a) := by
  rw [Fitting, BuiltFrom, itemsFrom_iff, List.forall_mem_map]
  rfl

theorem fitting_ofOptionalText (s : Option String) : Fitting (.ofOptionalText s) := by
  cases s <;> trivial

theorem FileEntry.fitting_toValue (f : FileEntry) : Fitting f.toValue ↔ Numeral.Fits f.id := by
  have hfolder := fitting_ofOptionalText f.folder
  rw [Fitting] at hfolder
  simp [toValue, Fitting, BuiltFrom, EntriesFrom, EntryFrom, FittingLeaf, hfolder]

theorem Folder.fitting_toValue (f : Folder) : Fitting f.toValue := by
  have hparent := fitting_ofOptionalText f.parent
  rw [Fitting] at hparent
  simp [toValue, Fitting, BuiltFrom, EntriesFrom, EntryFrom, FittingLeaf, hparent]

theorem Message.fitting_toValue (m : Message) : Fitting m.toValue ↔ Numeral.Fits m.id := by
  simp [toValue, Fitting, BuiltFrom, EntriesFrom, EntryFrom, FittingLeaf]

theorem Store.fitting_toValue (s : Store) :
    Fitting s.toValue ↔ ∀ f ∈ s.files, Numeral.Fits f.id := by
  have hfiles :
      Fitting (.list (s.files.map FileEntry.toValue)) ↔ ∀ f ∈ s.files, Numeral.Fits f.id :=
    fitting_list.trans (forall₂_congr fun f _ => f.fitting_toValue)
  have hfolders : Fitting (.list (s.folders.map Folder.toValue)) :=
    fitting_list.mpr fun f _ => f.fitting_toValue
  rw [← hfiles]
  constructor
  · exact fun h => h.2.1.2
  · exact fun h => ⟨by simp, ⟨⟨_, rfl⟩, h⟩, ⟨⟨_, rfl⟩, hfolders⟩, trivial⟩

/-- A part of a state has a text exactly if its whole numbers do. -/
theorem fitting_part (key : StateKey) (s : SessionState) : Fitting (s.part key) ↔ s.Fits key := by
  cases key with
  | files => exact fitting_list.trans (forall₂_congr fun f _ => f.fitting_toValue)
  | folders => exact iff_of_true (fitting_list.mpr fun f _ => f.fitting_toValue) trivial
  | messages => exact fitting_list.trans (forall₂_congr fun m _ => m.fitting_toValue)
  | history => exact fitting_list.trans (forall₂_congr fun t _ => t.fitting_toValue)
  | chatHeight => exact Iff.rfl
  | selectedFolder => exact iff_of_true (fitting_ofOptionalText s.selected) trivial

namespace Workbench

variable {w w' : Workbench} {key k : StateKey} {keys : List StateKey}

/-- A save meets no fault: every part is saved already or can be written. -/
def Savable (w : Workbench) : Prop := ∀ key, w.Saved key ∨ w.session.state.Fits key

/-! ## Saving -/

/-- Everything that writing one part can come to. -/
theorem saveKey_ended (w : Workbench) (key : StateKey) :
    ((w.Saved key ∨ w.session.state.Fits key) ∧ (w.saveKey key).2 = none) ∨
      (¬ (w.Saved key ∨ w.session.state.Fits key) ∧
        (w.saveKey key).2 = some .tooManyDigitsToWrite) := by
  have hsaved : w.Saved key ↔
      (w.session.stored key).any (·.same (w.session.state.part key)) := by
    rw [Saved, Option.any_eq_true]
  unfold saveKey
  dsimp only
  by_cases h : (w.session.stored key).any (·.same (w.session.state.part key))
  · exact .inl ⟨.inl (hsaved.mpr h), by rw [if_pos h]⟩
  · rw [if_neg h, hsaved, or_iff_right h, ← fitting_part, Drawer.save]
    rcases Document.ofValue_came (storable_part key w.session.state)
        (depth_part_le key w.session.state) with
      ⟨hfits, doc, hdoc⟩ | ⟨hno, hdoc⟩
    · exact .inl ⟨hfits, by rw [hdoc]; rfl⟩
    · exact .inr ⟨hno, by rw [hdoc]; rfl⟩

/-- Writing one part makes no difference to whether the others can be saved. -/
theorem saveKey_savable_iff (h : w.saveKey key = (w', none)) (k : StateKey) :
    w'.Saved k ∨ w'.session.state.Fits k ↔ w.Saved k ∨ w.session.state.Fits k := by
  have hended := w.saveKey_ended key
  rw [h] at hended
  obtain ⟨hkey, _⟩ := hended.resolve_right fun hfault => Option.some_ne_none _ hfault.2.symm
  obtain ⟨stored, drawer, hframe⟩ := saveKey_frame w key
  have hstate : w'.session.state = w.session.state := by
    rw [h] at hframe
    rw [show w' = _ from hframe]
    rfl
  rw [hstate]
  by_cases hk : k = key
  · subst hk
    exact iff_of_true (.inl (saveKey_saved h)) hkey
  · refine or_congr ?_ Iff.rfl
    rw [Saved, Saved, hstate]
    rcases saveKey_came h with ⟨rfl, _⟩ | ⟨d, _, rfl⟩
    · exact Iff.rfl
    · rw [Session.stored_remember_other hk]

/-- A save of some parts ends well exactly if each of them is saved or can be written. -/
theorem saveKeys_ended (w : Workbench) (keys : List StateKey) :
    ((∀ key ∈ keys, w.Saved key ∨ w.session.state.Fits key) ∧ (w.saveKeys keys).2 = none) ∨
      (¬ (∀ key ∈ keys, w.Saved key ∨ w.session.state.Fits key) ∧
        (w.saveKeys keys).2 = some .tooManyDigitsToWrite) := by
  induction keys generalizing w with
  | nil => exact .inl ⟨List.forall_mem_nil _, rfl⟩
  | cons key keys ih =>
    rw [List.forall_mem_cons, saveKeys]
    rcases hkey : w.saveKey key with ⟨w₁, _ | f⟩
    · have hended := w.saveKey_ended key
      rw [hkey] at hended
      obtain ⟨hsavable, _⟩ := hended.resolve_right fun hfault => Option.some_ne_none _ hfault.2.symm
      have hrest := ih w₁
      simp only [saveKey_savable_iff hkey] at hrest
      rwa [and_iff_right hsavable]
    · have hended := w.saveKey_ended key
      rw [hkey] at hended
      obtain ⟨hno, hfault⟩ := hended.resolve_left fun hok => Option.some_ne_none _ hok.2
      exact .inr ⟨fun h => hno h.1, hfault⟩

/-- **A save** meets no fault exactly if the workbench is savable. -/
theorem save_eq_none_iff : w.save.2 = none ↔ w.Savable := by
  have hended := w.saveKeys_ended StateKey.all
  have hall : (∀ key ∈ StateKey.all, w.Saved key ∨ w.session.state.Fits key) ↔ w.Savable :=
    forall_congr' fun key => forall_prop_of_true key.mem_all
  rw [hall] at hended
  rcases hended with ⟨hsavable, hnone⟩ | ⟨hno, hfault⟩
  · exact iff_of_true hnone hsavable
  · refine iff_of_false (fun hnone => ?_) hno
    rw [show w.save.2 = _ from hfault] at hnone
    cases hnone

/-- A save that fails meets a number that has too many digits. -/
theorem save_fault {f : Fault} (h : w.save.2 = some f) : f = .tooManyDigitsToWrite := by
  rcases w.saveKeys_ended StateKey.all with ⟨_, hnone⟩ | ⟨_, hfault⟩
  · rw [show w.save.2 = none from hnone] at h
    cases h
  · exact Option.some.inj (h.symm.trans hfault)

end Workbench

end FolderTalk
