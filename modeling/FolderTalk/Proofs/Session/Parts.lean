import FolderTalk.Proofs.Data.Records
import FolderTalk.Session.Load

/-!
# The parts of a state are read back

* `Gives` : the data of a key is turned into that part of a state;
* `usable_part` : the stored form of a part can be turned into a part;
* `gives_of_same` : data that is the same, if it can be turned into a part at all, gives that part.

The one part that is not read back as it was is the open folder: its identifier may be the word for
null, and then no folder is open (`SessionState.recalled`).
-/

namespace FolderTalk

open Schema Json

/-- The open folder as it is read back. -/
def recalledFolder (selected : Option String) : Option String := selected.filter (· != "null")

/-- The state as it is read back. -/
def SessionState.recalled (s : SessionState) : SessionState :=
  { s with selected := recalledFolder s.selected }

@[simp] theorem SessionState.recalled_selected (s : SessionState) :
    s.recalled.selected = recalledFolder s.selected := rfl

theorem recalledFolder_eq_self_iff (selected : Option String) :
    recalledFolder selected = selected ↔ selected ≠ some "null" := by
  cases selected with
  | none => simp [recalledFolder]
  | some id => simp [recalledFolder, Option.filter]

/-- The data of a key is turned into that part of the state. -/
def Gives : StateKey → Value → SessionState → Prop
  | .files, v, s => listPart FileEntry.check v = .ok s.store.files
  | .folders, v, s => listPart Folder.check v = .ok s.store.folders
  | .messages, v, s => listPart Message.check v = .ok s.messages
  | .history, v, s => listPart Store.check v = .ok s.history
  | .chatHeight, v, s => ∃ n, heightPart v = .ok n ∧ Panel.clamp n = s.chatHeight
  | .selectedFolder, v, s => selectionPart v = .ok s.selected

/-- The data of a key is turned into some part. -/
def Usable (key : StateKey) (v : Value) : Prop := ∃ s, Gives key v s

/-! ## Single parts -/

section Lists
variable {α : Type} {levels : Nat} {check : Value → Checked α} {toValue : α → Value}

theorem listPart_toValue (h : Returns levels check toValue) (as : List α) :
    listPart check (.list (as.map toValue)) = .ok as := by
  rw [listPart, (returns_list h).check_toValue]

theorem listPart_of_same (h : Returns levels check toValue) {v : Value} {as bs : List α}
    (hv : Keyed v) (hsame : v.same (.list (as.map toValue))) (hpart : listPart check v = .ok bs) :
    bs = as := by
  unfold listPart at hpart
  split at hpart
  · next hcheck =>
    cases hpart
    exact (returns_list h).eq_of_same hv hsame hcheck
  · cases hpart

end Lists

theorem truncate?_of_toInt? {x : Binary64} {n : Int} (h : x.toInt? = some n) :
    x.truncate? = some n := by
  cases x with
  | finite negative m e =>
    unfold Binary64.toInt? at h
    unfold Binary64.truncate?
    dsimp only at h ⊢
    split at h
    · exact h
    · cases h
  | _ => cases h

theorem heightPart_of_same {v : Value} {n : Int} (h : v.same (.int n)) : heightPart v = .ok n := by
  cases v with
  | bool b =>
    rw [Value.same, Value.number?, beq_iff_eq] at h
    rw [heightPart, Option.some.inj h]
  | int m =>
    rw [Value.same, Value.number?, beq_iff_eq] at h
    rw [heightPart, Option.some.inj h]
  | float x =>
    rw [Value.same, beq_iff_eq] at h
    have htruncate := truncate?_of_toInt? h
    cases x with
    | finite negative m e => simp [heightPart, htruncate]
    | _ => cases h
  | _ => simp [Value.same] at h

theorem selectionPart_ofOptionalText (selected : Option String) :
    selectionPart (.ofOptionalText selected) = .ok (recalledFolder selected) := by
  cases selected with
  | none => rfl
  | some id =>
    by_cases h : id = "null" <;>
      simp [Value.ofOptionalText, selectionPart, recalledFolder, Option.filter, h]

/-! ## Any part -/

variable {key : StateKey} {s : SessionState} {v : Value}

theorem storable_part (key : StateKey) (s : SessionState) : Storable (s.part key) := by
  cases key with
  | files => exact (returns_list FileEntry.returns).storable _
  | folders => exact (returns_list Folder.returns).storable _
  | messages => exact (returns_list Message.returns).storable _
  | history => exact (returns_list Store.returns).storable _
  | chatHeight => exact returns_integer.storable _
  | selectedFolder => exact returns_optionalText.storable _

theorem depth_part_le (key : StateKey) (s : SessionState) : depth (s.part key) ≤ maxDepth := by
  have hbound : ∀ n, n ≤ 4 → depth (s.part key) ≤ n → depth (s.part key) ≤ maxDepth :=
    fun n hn h => Nat.le_trans h (Nat.le_trans hn (by decide))
  cases key with
  | files => exact hbound 2 (by decide) ((returns_list FileEntry.returns).depth_le _)
  | folders => exact hbound 2 (by decide) ((returns_list Folder.returns).depth_le _)
  | messages => exact hbound 2 (by decide) ((returns_list Message.returns).depth_le _)
  | history => exact hbound 4 (by decide) ((returns_list Store.returns).depth_le _)
  | chatHeight => exact hbound 0 (by decide) (returns_integer.depth_le _)
  | selectedFolder => exact hbound 0 (by decide) (returns_optionalText.depth_le _)

/-- Data that is the same as a stored part is turned into that part. -/
theorem gives_of_same (hv : Keyed v) (huse : Usable key v) (hsame : v.same (s.part key))
    (hheight : Panel.clamp s.chatHeight = s.chatHeight) : Gives key v s.recalled := by
  obtain ⟨t, ht⟩ := huse
  cases key with
  | files => rw [Gives, ht, listPart_of_same FileEntry.returns hv hsame ht]; rfl
  | folders => rw [Gives, ht, listPart_of_same Folder.returns hv hsame ht]; rfl
  | messages => rw [Gives, ht, listPart_of_same Message.returns hv hsame ht]; rfl
  | history => rw [Gives, ht, listPart_of_same Store.returns hv hsame ht]; rfl
  | chatHeight => exact ⟨s.chatHeight, heightPart_of_same hsame, hheight⟩
  | selectedFolder =>
    rw [Gives, eq_of_same_optionalText hsame]
    exact selectionPart_ofOptionalText s.selected

/-- A stored part can be read. -/
theorem usable_part (key : StateKey) (s : SessionState) : Usable key (s.part key) := by
  refine ⟨{ s.recalled with chatHeight := Panel.clamp s.chatHeight }, ?_⟩
  cases key with
  | files => exact listPart_toValue FileEntry.returns _
  | folders => exact listPart_toValue Folder.returns _
  | messages => exact listPart_toValue Message.returns _
  | history => exact listPart_toValue Store.returns _
  | chatHeight => exact ⟨s.chatHeight, rfl, rfl⟩
  | selectedFolder => exact selectionPart_ofOptionalText s.selected

end FolderTalk
