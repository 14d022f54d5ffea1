import FolderTalk.Proofs.Session.Parts
import FolderTalk.Proofs.Storage.Lookup
import FolderTalk.Session.Submit

/-!
# What saving leaves in the drawer

* `Linked` : what a session believes to be stored is what its drawer holds, and it can be read;
* `Saved` : the stored value of a key is the part of the state;
* `save_spec` : a save that meets no fault keeps the link and leaves every part saved.
-/

namespace FolderTalk

open Json

theorem StateKey.name_injective {k key : StateKey} (h : k.name = key.name) : k = key := by
  cases k <;> cases key <;> first | rfl | (exact absurd h (by decide))

theorem StateKey.mem_all (key : StateKey) : key ∈ all := by
  cases key <;> decide

/-! ## Drawers -/

namespace Drawer

variable {d d' : Drawer} {key key' : String} {doc : Document}

theorem get?_put_self (d : Drawer) (key : String) (doc : Document) :
    (d.put key doc).get? key = some doc := by
  unfold put
  split
  · next hfound => exact lookup_replace_self hfound
  · next habsent => exact lookup_concat_self (Option.not_isSome_iff_eq_none.mp habsent)

theorem get?_put_other (h : key' ≠ key) : (d.put key doc).get? key' = d.get? key' := by
  unfold put
  split
  · exact lookup_replace_other h
  · exact lookup_concat_other h

theorem get?_remove {keys : List String} (h : key ∉ keys) : (d.remove keys).get? key = d.get? key :=
  (lookup_filter fun k => !keys.contains k).trans (if_pos (by simpa using h))

theorem get?_remove_of_mem {keys : List String} (h : key ∈ keys) : (d.remove keys).get? key = none :=
  (lookup_filter fun k => !keys.contains k).trans (if_neg (by simpa using h))

/-- The document of a key is read as the value. -/
def Holds (d : Drawer) (key : StateKey) (v : Value) : Prop :=
  ∃ doc, d.get? key.name = some doc ∧ doc.value = .ok v

theorem Holds.legible {key : StateKey} {v : Value} (h : d.Holds key v) : Legible v := by
  obtain ⟨doc, _, hvalue⟩ := h
  cases doc with
  | undecodable bytes => cases hvalue
  | text s =>
    unfold Document.value at hvalue
    dsimp only at hvalue
    split at hvalue <;> cases hvalue
    exact read_legible ‹_›

theorem Holds.keyed {key : StateKey} {v : Value} (h : d.Holds key v) : Keyed v :=
  keyed_of_legible h.legible

theorem holds_congr {key : StateKey} {v : Value} (h : d'.get? key.name = d.get? key.name) :
    d'.Holds key v ↔ d.Holds key v := by
  rw [Holds, h, Holds]

/-- What is saved is held. -/
theorem holds_save {key : StateKey} {v : Value} (hv : Storable v) (hdepth : depth v ≤ maxDepth)
    (h : d.save key.name v = .ok d') : d'.Holds key v := by
  unfold Drawer.save Document.ofValue at h
  cases hwrite : write v with
  | error e => rw [hwrite] at h; cases h
  | ok s =>
    rw [hwrite] at h
    cases h
    refine ⟨.text s, get?_put_self d key.name _, ?_⟩
    rw [Document.value, read_write hv hdepth hwrite]

theorem get?_save_other {v : Value} (hne : key' ≠ key) (h : d.save key v = .ok d') :
    d'.get? key' = d.get? key' := by
  unfold Drawer.save at h
  cases hdoc : Document.ofValue v with
  | error e => rw [hdoc] at h; cases h
  | ok doc =>
    rw [hdoc] at h
    cases h
    exact get?_put_other hne

end Drawer

namespace Session

variable {s : Session} {k key : StateKey} {v : Value}

theorem stored_remember_self : (s.remember key v).stored key = some v := by
  simp [remember]

theorem stored_remember_other (h : k ≠ key) : (s.remember key v).stored k = s.stored k := by
  simp [remember, h]

end Session

namespace Workbench

variable {w w' : Workbench} {key k : StateKey}

/-- The workbench with another drawer and other beliefs about what is stored. -/
def refiled (w : Workbench) (stored : StateKey → Option Value) (drawer : Drawer) : Workbench :=
  { w with session := { w.session with stored := stored }, drawer := drawer }

/-- What is believed to be stored is held by the drawer and can be read. -/
def Linked (w : Workbench) : Prop :=
  ∀ key v, w.session.stored key = some v → w.drawer.Holds key v ∧ Usable key v

theorem Linked.of_eq (h : w.Linked) (hstored : w'.session.stored = w.session.stored)
    (hdrawer : w'.drawer = w.drawer) : w'.Linked := by
  unfold Linked
  rw [hstored, hdrawer]
  exact h

/-- The value that is believed to be stored under the key is the same as the part of the state. -/
def Saved (w : Workbench) (key : StateKey) : Prop :=
  ∃ v, w.session.stored key = some v ∧ v.same (w.session.state.part key)

/-- Everything that writing one part can come to without a fault. -/
theorem saveKey_came (h : w.saveKey key = (w', none)) :
    w' = w ∧ w.Saved key ∨
      ∃ d, w.drawer.save key.name (w.session.state.part key) = .ok d ∧
        w' = { w with session := w.session.remember key (w.session.state.part key), drawer := d } := by
  unfold saveKey at h
  dsimp only at h
  split at h
  · next hany =>
    cases h
    exact .inl ⟨rfl, (Option.any_eq_true _ _).mp hany⟩
  · split at h
    · next d hd =>
      cases h
      exact .inr ⟨d, hd, rfl⟩
    · cases h

theorem saveKey_linked (hw : w.Linked) (h : w.saveKey key = (w', none)) : w'.Linked := by
  rcases saveKey_came h with ⟨rfl, _⟩ | ⟨d, hd, rfl⟩
  · exact hw
  · intro k v hstored
    by_cases hk : k = key
    · subst hk
      rw [Session.stored_remember_self] at hstored
      cases hstored
      exact ⟨Drawer.holds_save (storable_part ..) (depth_part_le ..) hd, usable_part ..⟩
    · rw [Session.stored_remember_other hk] at hstored
      have hname : k.name ≠ key.name := fun heq => hk (StateKey.name_injective heq)
      obtain ⟨hholds, huse⟩ := hw k v hstored
      exact ⟨(Drawer.holds_congr (Drawer.get?_save_other hname hd)).mpr hholds, huse⟩

theorem saveKey_saved (h : w.saveKey key = (w', none)) : w'.Saved key := by
  rcases saveKey_came h with ⟨rfl, hsaved⟩ | ⟨d, hd, rfl⟩
  · exact hsaved
  · exact ⟨_, Session.stored_remember_self, Value.same_self (storable_part ..)⟩

theorem saveKey_keeps_saved (h : w.saveKey key = (w', none)) (hk : w.Saved k) : w'.Saved k := by
  by_cases heq : k = key
  · exact heq ▸ saveKey_saved h
  · rcases saveKey_came h with ⟨rfl, _⟩ | ⟨d, hd, rfl⟩
    · exact hk
    · obtain ⟨v, hstored, hsame⟩ := hk
      exact ⟨v, (Session.stored_remember_other heq).trans hstored, hsame⟩

/-- Writing changes nothing but the drawer and what is believed to be stored. -/
theorem saveKey_frame (w : Workbench) (key : StateKey) :
    ∃ stored drawer, (w.saveKey key).1 = w.refiled stored drawer := by
  unfold saveKey
  dsimp only
  split
  · exact ⟨_, _, rfl⟩
  · split
    · exact ⟨_, _, rfl⟩
    · exact ⟨_, _, rfl⟩

theorem saveKeys_cons_none {keys : List StateKey} (h : w.saveKeys (key :: keys) = (w', none)) :
    ∃ w₁, w.saveKey key = (w₁, none) ∧ w₁.saveKeys keys = (w', none) := by
  rw [saveKeys] at h
  split at h
  · next w₁ hkey => exact ⟨w₁, hkey, h⟩
  · cases h

theorem saveKeys_frame (w : Workbench) (keys : List StateKey) :
    ∃ stored drawer, (w.saveKeys keys).1 = w.refiled stored drawer := by
  induction keys generalizing w with
  | nil => exact ⟨w.session.stored, w.drawer, rfl⟩
  | cons key keys ih =>
    obtain ⟨stored, drawer, hframe⟩ := saveKey_frame w key
    rw [saveKeys]
    split
    · next w₁ hkey =>
      obtain rfl : w₁ = w.refiled stored drawer := by rw [← hframe, hkey]
      exact ih _
    · next w₁ f hkey =>
      exact ⟨stored, drawer, by rw [← hframe, hkey]⟩

theorem save_frame (h : w.save = (w', none)) : ∃ stored drawer, w' = w.refiled stored drawer := by
  obtain ⟨stored, drawer, hframe⟩ := saveKeys_frame w StateKey.all
  refine ⟨stored, drawer, ?_⟩
  rw [← hframe]
  exact (congrArg Prod.fst h).symm

theorem saveKey_eq_of_fault {f : Fault} (h : w.saveKey key = (w', some f)) : w' = w := by
  unfold saveKey at h
  dsimp only at h
  split at h
  · cases h
  · split at h <;> cases h
    rfl

theorem saveKey_keeps_linked (hw : w.Linked) (key : StateKey) : (w.saveKey key).1.Linked := by
  rcases h : w.saveKey key with ⟨w', _ | f⟩
  · exact saveKey_linked hw h
  · exact saveKey_eq_of_fault h ▸ hw

/-- Writing one part makes no difference to what is stored under the other keys. -/
theorem saveKey_elsewhere (w : Workbench) (hk : k ≠ key) :
    (w.saveKey key).1.session.stored k = w.session.stored k ∧
      (w.saveKey key).1.drawer.get? k.name = w.drawer.get? k.name := by
  rcases h : w.saveKey key with ⟨w', _ | f⟩
  · rcases saveKey_came h with ⟨rfl, _⟩ | ⟨d, hd, rfl⟩
    · exact ⟨rfl, rfl⟩
    · have hname : k.name ≠ key.name := fun heq => hk (StateKey.name_injective heq)
      exact ⟨Session.stored_remember_other hk, Drawer.get?_save_other hname hd⟩
  · rw [saveKey_eq_of_fault h]
    exact ⟨rfl, rfl⟩

/-- What the writing of one part keeps, a save keeps wherever it ends. -/
theorem saveKeys_induct {P : Workbench → Prop} (hkey : ∀ w key, P w → P (saveKey w key).1) (h : P w)
    (keys : List StateKey) : P (w.saveKeys keys).1 := by
  induction keys generalizing w with
  | nil => exact h
  | cons key keys ih =>
    have hkept := hkey w key h
    rw [saveKeys]
    split
    · next w₁ hsave => exact ih (by rwa [hsave] at hkept)
    · next w₁ f hsave => rwa [hsave] at hkept

/-- A save keeps the link wherever it ends. -/
theorem saveKeys_linked (hw : w.Linked) (keys : List StateKey) : (w.saveKeys keys).1.Linked :=
  saveKeys_induct (P := Linked) (fun _ key hw => saveKey_keeps_linked hw key) hw keys

theorem saveKeys_keeps_saved {keys : List StateKey} (h : w.saveKeys keys = (w', none))
    (hk : w.Saved k) : w'.Saved k := by
  induction keys generalizing w with
  | nil => cases h; exact hk
  | cons key keys ih =>
    obtain ⟨w₁, hkey, hkeys⟩ := saveKeys_cons_none h
    exact ih hkeys (saveKey_keeps_saved hkey hk)

theorem saveKeys_saved {keys : List StateKey} (h : w.saveKeys keys = (w', none)) (hk : k ∈ keys) :
    w'.Saved k := by
  induction keys generalizing w with
  | nil => cases hk
  | cons key keys ih =>
    obtain ⟨w₁, hkey, hkeys⟩ := saveKeys_cons_none h
    rcases List.mem_cons.mp hk with rfl | hk
    · exact saveKeys_keeps_saved hkeys (saveKey_saved hkey)
    · exact ih hkeys hk

/-- **A save without a fault** keeps the link to the drawer and leaves every part saved. -/
theorem save_spec (hw : w.Linked) (h : w.save = (w', none)) : w'.Linked ∧ ∀ key, w'.Saved key := by
  have hlinked := saveKeys_linked hw StateKey.all
  rw [show w.saveKeys StateKey.all = (w', none) from h] at hlinked
  exact ⟨hlinked, fun key => saveKeys_saved h key.mem_all⟩

end Workbench

end FolderTalk
