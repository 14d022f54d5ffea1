import FolderTalk.Proofs.Engine.Step
import FolderTalk.Proofs.Session.Log
import FolderTalk.Proofs.Session.Saving

/-!
# What loading takes from the drawer

* `Readings.of_gives`, `Readings.holds_of_data` : documents that give the parts of a state are read
  as that state, and what was read is what the documents hold;
* `Session.taking` : a new session with what the readings of a drawer say;
* `load_of_faultless`, `faultless_of_load` : loading ends well exactly if no reading meets a fault,
  and then gives that session;
* `load_linked` : what a session believes to be stored stays right wherever loading ends.
-/

namespace FolderTalk

open Json

/-! ## Readings -/

namespace Readings

/-- The data that the readings of the parts were made from. -/
def data (r : Readings) : StateKey → Option Value
  | .files => r.files.data?
  | .folders => r.folders.data?
  | .messages => r.messages.data?
  | .history => r.history.data?
  | .chatHeight => r.chatHeight.data?
  | .selectedFolder => r.selected.data?

/-- No reading meets a fault. -/
def Faultless (r : Readings) : Prop := ∀ t ∈ r.traces, t.fault = none

end Readings

section Reading
variable {α : Type} {d : Drawer} {key : StateKey} {convert : Value → Except Misfit α} {v : Value} {a : α}

theorem Reading.of_holds (h : d.Holds key v) (hconvert : convert v = .ok a) :
    Reading.of d key convert = .found a v := by
  obtain ⟨doc, hdoc, hvalue⟩ := h
  rw [Reading.of, hdoc]
  dsimp only
  rw [hvalue]
  dsimp only
  rw [hconvert]

theorem Reading.holds_of_data (h : (Reading.of d key convert).data? = some v) :
    d.Holds key v ∧ ∃ a, convert v = .ok a := by
  unfold Reading.of at h
  repeat' split at h
  all_goals cases h
  exact ⟨⟨_, ‹_›, ‹_›⟩, _, ‹_›⟩

theorem Reading.converts_of_part (h : (Reading.of d key convert).part? = some a) :
    ∃ v, convert v = .ok a := by
  unfold Reading.of at h
  repeat' split at h
  all_goals cases h
  exact ⟨_, ‹_›⟩

end Reading

/-- What the readings were made from is held by the drawer and can be read. -/
theorem Readings.holds_of_data {d : Drawer} {key : StateKey} {v : Value}
    (h : (Readings.ofDrawer d).data key = some v) : d.Holds key v ∧ Usable key v := by
  cases key with
  | files =>
    obtain ⟨hholds, files, hfiles⟩ := Reading.holds_of_data h
    exact ⟨hholds, { store := { files := files } }, hfiles⟩
  | folders =>
    obtain ⟨hholds, folders, hfolders⟩ := Reading.holds_of_data h
    exact ⟨hholds, { store := { folders := folders } }, hfolders⟩
  | messages =>
    obtain ⟨hholds, messages, hmessages⟩ := Reading.holds_of_data h
    exact ⟨hholds, { messages := messages }, hmessages⟩
  | history =>
    obtain ⟨hholds, history, hhistory⟩ := Reading.holds_of_data h
    exact ⟨hholds, { history := history }, hhistory⟩
  | chatHeight =>
    obtain ⟨hholds, height, hheight⟩ := Reading.holds_of_data h
    exact ⟨hholds, { chatHeight := Panel.clamp height }, height, hheight, rfl⟩
  | selectedFolder =>
    obtain ⟨hholds, selected, hselected⟩ := Reading.holds_of_data h
    exact ⟨hholds, { selected := selected }, hselected⟩

theorem Readings.holds_of_trace {d : Drawer} {t : Trace} (ht : t ∈ (Readings.ofDrawer d).traces)
    {v : Value} (h : t.data = some v) : d.Holds t.key v ∧ Usable t.key v := by
  have hdata : (Readings.ofDrawer d).data t.key = t.data := by
    simp only [Readings.traces, List.mem_cons, List.not_mem_nil, or_false] at ht
    rcases ht with rfl | rfl | rfl | rfl | rfl | rfl <;> rfl
  exact Readings.holds_of_data (hdata.trans h)

/-- A drawer whose every document gives its part of a state is read as that state. -/
theorem Readings.of_gives {d : Drawer} {data : StateKey → Value} {s : SessionState}
    (hholds : ∀ key, d.Holds key (data key)) (hgives : ∀ key, Gives key (data key) s) :
    (Readings.ofDrawer d).Faultless ∧ (Readings.ofDrawer d).state = s ∧
      (Readings.ofDrawer d).data = fun key => some (data key) := by
  obtain ⟨height, hheight, hclamp⟩ := hgives .chatHeight
  have hall : Readings.ofDrawer d =
      { files := .found s.store.files (data .files)
        folders := .found s.store.folders (data .folders)
        messages := .found s.messages (data .messages)
        history := .found s.history (data .history)
        chatHeight := .found height (data .chatHeight)
        selected := .found s.selected (data .selectedFolder) } := by
    unfold Readings.ofDrawer
    rw [Reading.of_holds (hholds .files) (hgives .files),
      Reading.of_holds (hholds .folders) (hgives .folders),
      Reading.of_holds (hholds .messages) (hgives .messages),
      Reading.of_holds (hholds .history) (hgives .history),
      Reading.of_holds (hholds .chatHeight) hheight,
      Reading.of_holds (hholds .selectedFolder) (hgives .selectedFolder)]
  rw [hall]
  refine ⟨by simp [Readings.Faultless, Readings.traces, Trace.of, Reading.fault?], ?_, ?_⟩
  · show SessionState.mk s.store s.messages s.history (Panel.clamp height) s.selected = s
    rw [hclamp]
  · funext key
    cases key <;> rfl

theorem recalledFolder_of_selectionPart {v : Value} {selected : Option String}
    (h : selectionPart v = .ok selected) : recalledFolder selected = selected := by
  unfold selectionPart at h
  split at h
  · cases h; rfl
  · next s =>
    cases h
    by_cases hs : s = "null" <;> simp [recalledFolder, Option.filter, hs]
  · cases h

/-- What has been read once is read the same again. -/
theorem Readings.state_recalled (d : Drawer) :
    (Readings.ofDrawer d).state.recalled = (Readings.ofDrawer d).state := by
  have hselected : recalledFolder (Readings.ofDrawer d).state.selected =
      (Readings.ofDrawer d).state.selected := by
    show recalledFolder ((Reading.of d .selectedFolder selectionPart).part?.getD none) =
      (Reading.of d .selectedFolder selectionPart).part?.getD none
    cases hpart : (Reading.of d .selectedFolder selectionPart).part? with
    | none => rfl
    | some selected =>
      obtain ⟨v, hv⟩ := Reading.converts_of_part hpart
      exact recalledFolder_of_selectionPart hv
  rw [SessionState.recalled, hselected]

theorem clamp_clamp (n : Int) : Panel.clamp (Panel.clamp n) = Panel.clamp n := by
  unfold Panel.clamp Panel.minHeight Panel.maxHeight
  omega

theorem Readings.clamp_state_chatHeight (r : Readings) :
    Panel.clamp r.state.chatHeight = r.state.chatHeight := by
  unfold Readings.state
  dsimp only
  cases r.chatHeight.part? with
  | none => decide
  | some n => exact clamp_clamp n

/-! ## Loading a new session -/

/-- The session with what the readings say. -/
def Session.taking (s : Session) (r : Readings) : Session :=
  { s.withState r.state with loaded := true, stored := r.data }

namespace Workbench

variable {w w' : Workbench}

theorem note_eq (w : Workbench) (t : Trace) : w.note t =
    { w with
      session := { w.session with
        stored := fun k => if k == t.key then t.data.or (w.session.stored k) else w.session.stored k }
      log := w.log ++ t.complaint.toList } := by
  unfold note
  cases t.data with
  | some v => rfl
  | none => simp [reportAll]

theorem noteAll_of_faultless (w : Workbench) {ts : List Trace} (h : ∀ t ∈ ts, t.fault = none) :
    w.noteAll ts = (ts.foldl note w, none) := by
  induction ts generalizing w with
  | nil => rfl
  | cons t ts ih =>
    obtain ⟨ht, hts⟩ := List.forall_mem_cons.mp h
    rw [noteAll, ht]
    exact ih (w.note t) hts

theorem fault_of_noteAll {ts : List Trace} (h : (w.noteAll ts).2 = none) :
    ∀ t ∈ ts, t.fault = none := by
  induction ts generalizing w with
  | nil => exact List.forall_mem_nil _
  | cons t ts ih =>
    rw [noteAll] at h
    cases ht : t.fault with
    | some f => rw [ht] at h; cases h
    | none =>
      rw [ht] at h
      exact List.forall_mem_cons.mpr ⟨ht, ih h⟩

theorem foldl_note_traces (hw : w.session.stored = fun _ => none) (r : Readings) :
    ∃ log, r.traces.foldl note w =
      { w with session := { w.session with stored := r.data }, log := log } := by
  have hstored : (r.traces.foldl note w).session.stored = r.data := by
    funext key
    simp only [Readings.traces, List.foldl_cons, List.foldl_nil, note_eq, hw]
    cases key <;> simp [Trace.of, Readings.data]
  refine ⟨(r.traces.foldl note w).log, ?_⟩
  rw [← hstored]
  simp only [Readings.traces, List.foldl_cons, List.foldl_nil, note_eq]

theorem load_of_faultless (hw : w.session.stored = fun _ => none)
    (h : (Readings.ofDrawer w.drawer).Faultless) :
    ∃ log, w.load = ({ w with session := w.session.taking (.ofDrawer w.drawer), log := log }, none) := by
  obtain ⟨log, hnoted⟩ := foldl_note_traces hw (.ofDrawer w.drawer)
  unfold load
  dsimp only
  rw [noteAll_of_faultless w h, hnoted]
  exact ⟨_, rfl⟩

theorem faultless_of_load (h : w.load.2 = none) : (Readings.ofDrawer w.drawer).Faultless := by
  apply fault_of_noteAll (w := w)
  unfold load at h
  dsimp only at h
  split at h
  · cases h
  · next hnote => rw [hnote]

/-! ## Loading any session -/

theorem note_linked {t : Trace} (hw : w.Linked)
    (ht : ∀ v, t.data = some v → w.drawer.Holds t.key v ∧ Usable t.key v) : (w.note t).Linked := by
  rw [note_eq]
  intro key v hstored
  dsimp only at hstored ⊢
  split at hstored
  · next hkey =>
    obtain rfl := beq_iff_eq.mp hkey
    cases hdata : t.data with
    | none =>
      rw [hdata] at hstored
      exact hw _ v hstored
    | some v' =>
      rw [hdata] at hstored
      cases hstored
      exact ht v hdata
  · exact hw key v hstored

theorem noteAll_linked {ts : List Trace} (hw : w.Linked)
    (hts : ∀ t ∈ ts, ∀ v, t.data = some v → w.drawer.Holds t.key v ∧ Usable t.key v) :
    (w.noteAll ts).1.Linked := by
  induction ts generalizing w with
  | nil => exact hw
  | cons t ts ih =>
    obtain ⟨ht, hts⟩ := List.forall_mem_cons.mp hts
    rw [noteAll]
    split
    · exact hw
    · refine ih (note_linked hw ht) ?_
      rw [show (w.note t).drawer = w.drawer by rw [note_eq]]
      exact hts

/-- Loading keeps the link, whatever the session was before and wherever it ends. -/
theorem load_linked (hw : w.Linked) : w.load.1.Linked := by
  have hnoted := noteAll_linked hw fun t ht v h => Readings.holds_of_trace (d := w.drawer) ht h
  unfold load
  dsimp only
  rcases h : w.noteAll (Readings.ofDrawer w.drawer).traces with ⟨w₁, _ | f⟩
  · rw [h] at hnoted
    exact hnoted.of_eq rfl rfl
  · rw [h] at hnoted
    exact hnoted

end Workbench

end FolderTalk
