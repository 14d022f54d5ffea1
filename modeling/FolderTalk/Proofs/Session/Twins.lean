import FolderTalk.Proofs.Engine.Alike
import FolderTalk.Proofs.Session.Lockstep
import FolderTalk.Proofs.Session.Log

/-!
# Sessions that cannot be told apart

What a loaded session answers depends on its state, on what it believes to be stored and on what its
sources still give. The height of the panel is not changed by commands, so it does not matter how
its value is spelled where it is stored.

* `Twins` : two workbenches that have all of this in common;
* `Twins.submitWith` : twins answer a submitted text alike, and they stay twins;
* `Twins.replies` : so they answer all texts alike, and are in the same state after each.
-/

namespace FolderTalk

theorem StateKey.mem_wipedByReset {key : StateKey} : key ∈ wipedByReset ↔ key ≠ .chatHeight := by
  cases key <;> decide

namespace Workbench

variable {v w : Workbench} {key : StateKey}

/-- The workbenches are in the same state, believe the same to be stored and have the same to draw.
The height of the panel is saved in both, in whatever spelling. -/
structure Twins (v w : Workbench) : Prop where
  palette : v.session.palette = w.session.palette
  delay : v.session.delay = w.session.delay
  desk : v.session.desk = w.session.desk
  messages : v.session.messages = w.session.messages
  chatHeight : v.session.chatHeight = w.session.chatHeight
  busy : v.session.busy = w.session.busy
  loaded : v.session.loaded = true ∧ w.session.loaded = true
  stored : ∀ key, key ≠ .chatHeight → v.session.stored key = w.session.stored key
  saved : v.Saved .chatHeight ∧ w.Saved .chatHeight
  documents : ∀ key : StateKey, key ≠ .chatHeight → v.drawer.get? key.name = w.drawer.get? key.name
  sources : v.sources.Alike w.sources
  interpret : v.interpret = w.interpret

/-- The results are the same, and they leave twins. -/
def Both {α : Type} (r r' : Workbench × α) : Prop := r.2 = r'.2 ∧ Twins r.1 r'.1

namespace Twins

theorem state_eq (h : Twins v w) : v.session.state = w.session.state := by
  unfold Session.state
  rw [h.desk, h.messages, h.chatHeight]

/-- The log makes no difference. -/
theorem logged (h : Twins v w) (log log' : List Event) :
    Twins { v with log := log } { w with log := log' } :=
  { h with }

theorem marked (h : Twins v w) (busy : Bool) :
    Twins (v.change ({ · with busy := busy })) (w.change ({ · with busy := busy })) :=
  { h with busy := rfl }

/-! ## Saving -/

theorem append (h : Twins v w) (text : String) (sender : Sender) :
    Twins (v.change (·.append text sender)) (w.change (·.append text sender)) :=
  { h with
    messages := congrArg (Transcript.append · text sender) h.messages }

theorem remember (h : Twins v w) (hkey : key ≠ .chatHeight) (value : Value) (doc : Document) :
    Twins ({ v with drawer := v.drawer.put key.name doc }.change (·.remember key value))
      ({ w with drawer := w.drawer.put key.name doc }.change (·.remember key value)) :=
  { h with
    stored := by
      intro k hk
      show (v.session.remember key value).stored k = (w.session.remember key value).stored k
      by_cases heq : k = key
      · rw [heq, Session.stored_remember_self, Session.stored_remember_self]
      · rw [Session.stored_remember_other heq, Session.stored_remember_other heq]
        exact h.stored k hk
    saved := by
      obtain ⟨⟨x, hx, hsame⟩, ⟨y, hy, hsame'⟩⟩ := h.saved
      exact ⟨⟨x, (Session.stored_remember_other hkey.symm).trans hx, hsame⟩,
        ⟨y, (Session.stored_remember_other hkey.symm).trans hy, hsame'⟩⟩
    documents := by
      intro k hk
      show (v.drawer.put key.name doc).get? k.name = (w.drawer.put key.name doc).get? k.name
      by_cases heq : k = key
      · rw [heq, Drawer.get?_put_self, Drawer.get?_put_self]
      · have hname : k.name ≠ key.name := fun hname => heq (StateKey.name_injective hname)
        rw [Drawer.get?_put_other hname, Drawer.get?_put_other hname]
        exact h.documents k hk }

theorem saveKey (h : Twins v w) (key : StateKey) : Both (v.saveKey key) (w.saveKey key) := by
  unfold Workbench.saveKey
  dsimp only
  by_cases hkey : key = .chatHeight
  · subst hkey
    rw [if_pos ((Option.any_eq_true _ _).mpr h.saved.1),
      if_pos ((Option.any_eq_true _ _).mpr h.saved.2)]
    exact ⟨rfl, h⟩
  · rw [h.state_eq, h.stored key hkey]
    split
    · exact ⟨rfl, h⟩
    · unfold Drawer.save
      cases Document.ofValue (w.session.state.part key) with
      | error f => exact ⟨rfl, h⟩
      | ok doc => exact ⟨rfl, h.remember hkey _ doc⟩

theorem saveKeys (h : Twins v w) (keys : List StateKey) :
    Both (v.saveKeys keys) (w.saveKeys keys) :=
  saveKeys_together (fun h key => h.saveKey key) h keys

theorem post (h : Twins v w) (text : String) (sender : Sender) :
    Both (v.post text sender) (w.post text sender) :=
  (h.append text sender).saveKeys StateKey.all

/-! ## Running -/

theorem wipe (h : Twins v w) : Twins v.wipe w.wipe :=
  { h with
    messages := rfl
    stored := fun key hkey => by
      have hmem : StateKey.wipedByReset.contains key :=
        List.contains_iff_mem.mpr (StateKey.mem_wipedByReset.mpr hkey)
      exact (if_pos hmem).trans (if_pos hmem).symm
    saved := h.saved
    documents := fun key hkey => by
      have hmem : key.name ∈ StateKey.wipedByReset.map StateKey.name :=
        List.mem_map_of_mem (StateKey.mem_wipedByReset.mpr hkey)
      exact (Drawer.get?_remove_of_mem hmem).trans (Drawer.get?_remove_of_mem hmem).symm }

theorem worked (h : Twins v w) (intent : Intent) (effect : Effect) {left left' : Sources}
    (hleft : left.Alike left') :
    Twins (v.worked intent effect left) (w.worked intent effect left') :=
  { h with
    desk := rfl
    sources := hleft }

theorem perform (h : Twins v w) (command : String) (intent : Intent) :
    Both (v.perform command intent) (w.perform command intent) := by
  have hexecute := Engine.execute_alike h.sources w.session.palette intent w.session.desk
  rcases hv : Engine.execute v.session.palette v.sources intent v.session.desk with ⟨effect, left⟩
  rcases hw : Engine.execute w.session.palette w.sources intent w.session.desk with ⟨effect', left'⟩
  rw [perform_eq command hv, perform_eq command hw]
  rw [h.palette, h.desk] at hv
  rw [hv, hw] at hexecute
  obtain ⟨heffect, hleft⟩ := hexecute
  obtain rfl : effect = effect' := heffect
  refine ⟨rfl, ?_⟩
  dsimp only
  split
  · exact (h.worked intent effect hleft).wipe
  · exact h.worked intent effect hleft

theorem run (h : Twins v w) (command : String) : Both (v.run command) (w.run command) := by
  unfold Workbench.run
  dsimp only
  rw [h.interpret, h.desk]
  cases w.interpret command w.session.desk.store with
  | none => exact ⟨by simp [report, h.desk], h.logged _ _⟩
  | some intent => exact (h.logged _ _).perform command intent

/-! ## Submitting -/

theorem lockstep : Lockstep Twins where
  busy h := h.busy
  delay h := h.delay
  logged h := h.logged
  marked h := h.marked
  loadIfNeeded h := by
    unfold loadIfNeeded
    rw [if_pos h.loaded.1, if_pos h.loaded.2]
    exact ⟨rfl, h⟩
  post h _ := h.post
  run h := h.run

/-- **Twins answer alike**, and stay twins. -/
theorem submitWith (h : Twins v w) (text : String) (meanwhile : List String) :
    Both (v.submitWith text meanwhile) (w.submitWith text meanwhile) :=
  lockstep.submitWith h text meanwhile

end Twins

/-! ## Runs of texts -/

/-- What a run answers to each of the texts and the state after it, however it was answered. With
each text stand those that come in during the pause before the reply. -/
def replies (w : Workbench) : List (String × List String) → List (Except Fault Turn × SessionState)
  | [] => []
  | (text, meanwhile) :: texts =>
    let (w, result) := w.submitWith text meanwhile
    (result, w.session.state) :: replies w texts

/-- **Twins cannot be told apart** by submitting texts to them. -/
theorem Twins.replies (h : Twins v w) (texts : List (String × List String)) :
    v.replies texts = w.replies texts := by
  induction texts generalizing v w with
  | nil => rfl
  | cons entry texts ih =>
    obtain ⟨text, meanwhile⟩ := entry
    obtain ⟨hresult, htwins⟩ := h.submitWith text meanwhile
    rw [Workbench.replies, Workbench.replies]
    dsimp only
    rw [hresult, htwins.state_eq, ih htwins]

end Workbench

end FolderTalk
