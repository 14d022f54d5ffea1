import FolderTalk.Proofs.Data.Returning
import FolderTalk.Session.State

/-!
# The records of a session are checked back

Files, folders, messages and whole trees, as they are stored, are checked back to what they were,
and so is every value that is the same as the stored one.
-/

namespace FolderTalk

open Schema Json

@[simp] theorem builtFrom_ofOptionalText (s : Option String) :
    BuiltFrom PlainLeaf (.ofOptionalText s) :=
  returns_optionalText.storable s

@[simp] theorem depth_ofOptionalText (s : Option String) : depth (.ofOptionalText s) = 0 :=
  Nat.le_zero.mp (returns_optionalText.depth_le s)

theorem FileKind.ofName?_name (k : FileKind) : ofName? k.name = some k := by
  cases k <;> rfl

theorem Sender.ofName?_name (s : Sender) : ofName? s.name = some s := by
  cases s <;> rfl

theorem FileKind.returns :
    Returns 0 (oneOf FileKind.ofName? (FileKind.all.map FileKind.name)) fun k => .text k.name :=
  returns_oneOf FileKind.ofName?_name _

theorem Sender.returns :
    Returns 0 (oneOf Sender.ofName? (Sender.all.map Sender.name)) fun s => .text s.name :=
  returns_oneOf Sender.ofName?_name _

theorem FileEntry.returns : Returns 1 FileEntry.check FileEntry.toValue := by
  refine returns_record ?_ ?_ ?_ ?_
  · intro f
    have hkind := FileKind.returns.check_toValue f.kind
    have hfolder := returns_optionalText.check_toValue f.folder
    simp [required, optionalField, Entries.get?, Entries.find?, hkind, hfolder]
    rfl
  · intro f
    exact ⟨by simp, by simp [EntriesFrom, EntryFrom, BuiltFrom, PlainLeaf]⟩
  · intro f
    simp [entriesDepth, entryDepth, depth]
  · intro es f g hfind h
    obtain ⟨_, folder, h₁, hfolder, rfl⟩ := valid_of_app h
    obtain ⟨_, size, h₂, hsize, rfl⟩ := valid_of_app h₁
    obtain ⟨_, kind, h₃, hkind, rfl⟩ := valid_of_app h₂
    obtain ⟨_, name, h₄, hname, rfl⟩ := valid_of_app h₃
    obtain ⟨_, id, h₅, hid, rfl⟩ := valid_of_app h₄
    cases h₅
    rw [returns_integer.eq_of_required (a := f.id) (hfind _ _ (by simp)) hid,
      returns_text.eq_of_required (a := f.name) (hfind _ _ (by simp)) hname,
      FileKind.returns.eq_of_optionalField (a := f.kind) (hfind _ _ (by simp)) hkind,
      returns_text.eq_of_optionalField (a := f.size) (hfind _ _ (by simp)) hsize,
      returns_optionalText.eq_of_optionalField (a := f.folder) (hfind _ _ (by simp)) hfolder]

theorem Folder.returns : Returns 1 Folder.check Folder.toValue := by
  refine returns_record ?_ ?_ ?_ ?_
  · intro f
    have hparent := returns_optionalText.check_toValue f.parent
    simp [required, optionalField, Entries.get?, Entries.find?, hparent]
    rfl
  · intro f
    exact ⟨by simp, by simp [EntriesFrom, EntryFrom, BuiltFrom, PlainLeaf]⟩
  · intro f
    simp [entriesDepth, entryDepth, depth]
  · intro es f g hfind h
    obtain ⟨_, parent, h₁, hparent, rfl⟩ := valid_of_app h
    obtain ⟨_, color, h₂, hcolor, rfl⟩ := valid_of_app h₁
    obtain ⟨_, name, h₃, hname, rfl⟩ := valid_of_app h₂
    obtain ⟨_, id, h₄, hid, rfl⟩ := valid_of_app h₃
    cases h₄
    rw [returns_text.eq_of_required (a := f.id) (hfind _ _ (by simp)) hid,
      returns_text.eq_of_required (a := f.name) (hfind _ _ (by simp)) hname,
      returns_text.eq_of_optionalField (a := f.color) (hfind _ _ (by simp)) hcolor,
      returns_optionalText.eq_of_optionalField (a := f.parent) (hfind _ _ (by simp)) hparent]

theorem Message.returns : Returns 1 Message.check Message.toValue := by
  refine returns_record ?_ ?_ ?_ ?_
  · intro m
    have hsender := Sender.returns.check_toValue m.sender
    simp [required, Entries.get?, Entries.find?, hsender]
    rfl
  · intro m
    exact ⟨by simp, by simp [EntriesFrom, EntryFrom, BuiltFrom, PlainLeaf]⟩
  · intro m
    simp [entriesDepth, entryDepth, depth]
  · intro es m m' hfind h
    obtain ⟨_, sender, h₁, hsender, rfl⟩ := valid_of_app h
    obtain ⟨_, text, h₂, htext, rfl⟩ := valid_of_app h₁
    obtain ⟨_, id, h₃, hid, rfl⟩ := valid_of_app h₂
    cases h₃
    rw [returns_integer.eq_of_required (a := m.id) (hfind _ _ (by simp)) hid,
      returns_text.eq_of_required (a := m.text) (hfind _ _ (by simp)) htext,
      Sender.returns.eq_of_required (a := m.sender) (hfind _ _ (by simp)) hsender]

theorem Store.returns : Returns 3 Store.check Store.toValue := by
  have hfiles := returns_list FileEntry.returns
  have hfolders := returns_list Folder.returns
  refine returns_record ?_ ?_ ?_ ?_
  · intro s
    simp [optionalField, Entries.get?, Entries.find?, hfiles.check_toValue, hfolders.check_toValue]
    rfl
  · intro s
    refine ⟨by simp, ⟨⟨_, rfl⟩, hfiles.storable _⟩, ⟨⟨_, rfl⟩, hfolders.storable _⟩, trivial⟩
  · intro s
    exact Nat.max_le.mpr ⟨hfiles.depth_le _, Nat.max_le.mpr ⟨hfolders.depth_le _, Nat.zero_le _⟩⟩
  · intro es s s' hfind h
    obtain ⟨_, folders, h₁, hfolders', rfl⟩ := valid_of_app h
    obtain ⟨_, files, h₂, hfiles', rfl⟩ := valid_of_app h₁
    cases h₂
    rw [hfiles.eq_of_optionalField (a := s.files) (hfind _ _ (by simp)) hfiles',
      hfolders.eq_of_optionalField (a := s.folders) (hfind _ _ (by simp)) hfolders']

end FolderTalk
