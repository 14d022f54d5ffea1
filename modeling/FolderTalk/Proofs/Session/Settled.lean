import FolderTalk.Proofs.Session.AnyDrawer
import FolderTalk.Proofs.Session.Filing

/-!
# Beliefs about single documents

The documents of a session may change behind its back, and then what it believes to be stored is no
longer so. A save goes by these beliefs all the same, and so they last until something is written,
read or wiped under their key.

* `LinkedAt` : what is believed about a key is what the drawer holds;
* `Stands` : nothing has happened to the document of a key and the belief about it;
* `save_settled`, `save_stands` : a save leaves both standing exactly if it passes over the part;
* `load_linkedAt` : loading leaves them standing only for a document that it passes over;
* `operateAll_settled` : whatever is done with a session and wherever it ends, a belief comes to be
  what the drawer holds, or it stands.
-/

namespace FolderTalk

/-- The document of a key is not there, or holds nothing that can be turned into the part. -/
def Drawer.PassedOver (d : Drawer) (key : StateKey) : Prop := ∀ v, d.Holds key v → ¬ Usable key v

theorem Readings.data_of_holds {d : Drawer} {key : StateKey} {v : Value} (hv : d.Holds key v)
    (huse : Usable key v) : (Readings.ofDrawer d).data key = some v := by
  obtain ⟨s, hs⟩ := huse
  have hdata : ∀ {α : Type} (convert : Value → Except Misfit α) {a : α}, convert v = .ok a →
      (Reading.of d key convert).data? = some v := by
    intro α convert a ha
    rw [Reading.of_holds hv ha]
    rfl
  cases key with
  | chatHeight =>
    obtain ⟨n, hn, _⟩ := hs
    exact hdata heightPart hn
  | _ => exact hdata _ hs

namespace Workbench

variable {w w' w₁ w₂ : Workbench} {key : StateKey}

/-! ## Beliefs about single keys -/

/-- What is believed to be stored under the key is held by the drawer. -/
def LinkedAt (w : Workbench) (key : StateKey) : Prop :=
  ∀ v, w.session.stored key = some v → w.drawer.Holds key v

/-- Nothing has happened to what is stored under the key and what is believed to be. -/
structure Stands (key : StateKey) (w w' : Workbench) : Prop where
  stored : w'.session.stored key = w.session.stored key
  document : w'.drawer.get? key.name = w.drawer.get? key.name

/-- What is believed to be stored under the key is held by the drawer, or both stand. -/
def Settled (key : StateKey) (w w' : Workbench) : Prop := w'.LinkedAt key ∨ Stands key w w'

namespace Stands

theorem rfl : Stands key w w := ⟨Eq.refl _, Eq.refl _⟩

theorem trans (h : Stands key w w₁) (h' : Stands key w₁ w₂) : Stands key w w₂ :=
  ⟨h'.stored.trans h.stored, h'.document.trans h.document⟩

theorem holds_iff (h : Stands key w w') {v : Value} : w'.drawer.Holds key v ↔ w.drawer.Holds key v :=
  Drawer.holds_congr h.document

theorem linkedAt (h : Stands key w w') (hw : w.LinkedAt key) : w'.LinkedAt key := by
  intro v hstored
  exact h.holds_iff.mpr (hw v (h.stored.symm.trans hstored))

end Stands

namespace Settled

theorem rfl : Settled key w w := .inr .rfl

theorem linkedAt (h : Settled key w w') (hw : w.LinkedAt key) : w'.LinkedAt key :=
  h.elim id (·.linkedAt hw)

theorem trans (h : Settled key w w₁) (h' : Settled key w₁ w₂) : Settled key w w₂ := by
  rcases h with hlinked | hstands
  · exact .inl (h'.linkedAt hlinked)
  · exact h'.imp id hstands.trans

end Settled

/-! ## Saving -/

theorem saveKey_settled (w : Workbench) (k key : StateKey) : Settled key w (w.saveKey k).1 := by
  by_cases hkey : key = k
  · subst hkey
    rcases h : w.saveKey key with ⟨w', _ | f⟩
    · rcases saveKey_came h with ⟨rfl, _⟩ | ⟨d, hd, rfl⟩
      · exact .rfl
      · refine .inl fun v hstored => ?_
        rw [Session.stored_remember_self] at hstored
        cases hstored
        exact Drawer.holds_save (storable_part ..) (depth_part_le ..) hd
    · rw [saveKey_eq_of_fault h]
      exact .rfl
  · obtain ⟨hstored, hdocument⟩ := saveKey_elsewhere w hkey
    exact .inr ⟨hstored, hdocument⟩

theorem saveKeys_settled (w : Workbench) (keys : List StateKey) (key : StateKey) :
    Settled key w (w.saveKeys keys).1 :=
  saveKeys_induct (P := Settled key w) (fun _ k h => h.trans (saveKey_settled _ k key)) .rfl keys

/-- A save without a fault leaves alone only what is saved already. -/
theorem save_settled (h : w.save = (w', none)) (key : StateKey) :
    w'.LinkedAt key ∨ w.Saved key ∧ Stands key w w' := by
  have hsettled := saveKeys_settled w StateKey.all key
  rw [show w.saveKeys StateKey.all = (w', none) from h] at hsettled
  refine hsettled.imp id fun hstands => ⟨?_, hstands⟩
  obtain ⟨v, hstored, hsame⟩ := saveKeys_saved h key.mem_all
  obtain ⟨stored, drawer, rfl⟩ := save_frame h
  exact ⟨v, hstands.stored.symm.trans hstored, hsame⟩

/-- A save passes over what is saved already. -/
theorem save_stands (h : w.save = (w', none)) (hsaved : w.Saved key) : Stands key w w' := by
  have hkept : Stands key w (w.saveKeys StateKey.all).1 ∧
      (w.saveKeys StateKey.all).1.session.state = w.session.state := by
    refine saveKeys_induct (P := fun u => Stands key w u ∧ u.session.state = w.session.state)
      (fun u k ⟨hstands, hstate⟩ => ?_) ⟨.rfl, rfl⟩ StateKey.all
    have hframe : (u.saveKey k).1.session.state = u.session.state := by
      obtain ⟨stored, drawer, hframe⟩ := saveKey_frame u k
      rw [hframe]
      rfl
    refine ⟨hstands.trans ?_, hframe.trans hstate⟩
    by_cases hkey : key = k
    · subst hkey
      have hskipped : (u.session.stored key).any (·.same (u.session.state.part key)) := by
        rw [hstands.stored, hstate]
        exact (Option.any_eq_true _ _).mpr hsaved
      unfold saveKey
      dsimp only
      rw [if_pos hskipped]
      exact .rfl
    · obtain ⟨hstored, hdocument⟩ := saveKey_elsewhere u hkey
      exact ⟨hstored, hdocument⟩
  rw [show w.saveKeys StateKey.all = (w', none) from h] at hkept
  exact hkept.1

/-! ## Loading -/

theorem note_settled {t : Trace} (ht : ∀ v, t.data = some v → w.drawer.Holds t.key v)
    (key : StateKey) : Settled key w (w.note t) := by
  rw [note_eq]
  by_cases hkey : key = t.key
  · subst hkey
    cases hdata : t.data with
    | none => exact .inr ⟨by simp, rfl⟩
    | some v =>
      refine .inl fun v' hstored => ?_
      simp only [beq_self_eq_true, if_true, Option.some_or, Option.some.injEq] at hstored
      exact hstored ▸ ht v hdata
  · exact .inr ⟨by simp [hkey], rfl⟩

theorem noteAll_settled {ts : List Trace}
    (hts : ∀ t ∈ ts, ∀ v, t.data = some v → w.drawer.Holds t.key v) (key : StateKey) :
    Settled key w (w.noteAll ts).1 := by
  induction ts generalizing w with
  | nil => exact .rfl
  | cons t ts ih =>
    obtain ⟨ht, hts⟩ := List.forall_mem_cons.mp hts
    rw [noteAll]
    split
    · exact .rfl
    · refine (note_settled ht key).trans (ih ?_)
      rw [show (w.note t).drawer = w.drawer by rw [note_eq]]
      exact hts

theorem load_settled (w : Workbench) (key : StateKey) : Settled key w w.load.1 := by
  have hnoted := noteAll_settled (w := w)
    (fun t ht v h => (Readings.holds_of_trace (d := w.drawer) ht h).1) key
  unfold load
  dsimp only
  rcases h : w.noteAll (Readings.ofDrawer w.drawer).traces with ⟨w₁, _ | f⟩
  · rw [h] at hnoted
    exact hnoted.trans (.inr ⟨rfl, rfl⟩)
  · rw [h] at hnoted
    exact hnoted

/-- After a loading that ends well, what is believed is the data that was read, and otherwise what
was believed before. -/
theorem load_stored (h : w.load = (w', none)) (key : StateKey) : w'.session.stored key =
    ((Readings.ofDrawer w.drawer).data key).or (w.session.stored key) := by
  have hfaultless := faultless_of_load (by rw [h])
  unfold load at h
  dsimp only at h
  rw [noteAll_of_faultless w hfaultless] at h
  cases h
  show ((Readings.ofDrawer w.drawer).traces.foldl note w).session.stored key = _
  simp only [Readings.traces, List.foldl_cons, List.foldl_nil, note_eq]
  cases key <;> simp [Trace.of, Readings.data]

/-- Loading leaves a belief standing only about a document that it passes over. -/
theorem load_linkedAt (h : w.load = (w', none)) (key : StateKey) :
    (w.drawer.PassedOver key → Stands key w w') ∧ (¬ w.drawer.PassedOver key → w'.LinkedAt key) := by
  have hstored := load_stored h key
  have hdrawer : w'.drawer = w.drawer := by rw [← w.load_drawer, h]
  constructor
  · intro hpassed
    cases hdata : (Readings.ofDrawer w.drawer).data key with
    | none =>
      rw [hdata] at hstored
      exact ⟨hstored, by rw [hdrawer]⟩
    | some v =>
      obtain ⟨hholds, huse⟩ := Readings.holds_of_data hdata
      exact absurd huse (hpassed v hholds)
  · intro hread v' hv'
    unfold Drawer.PassedOver at hread
    push Not at hread
    obtain ⟨v, hholds, huse⟩ := hread
    rw [hstored, Readings.data_of_holds hholds huse, Option.some_or, Option.some.injEq] at hv'
    rw [hdrawer, ← hv']
    exact hholds

theorem loadIfNeeded_settled (w : Workbench) (key : StateKey) : Settled key w w.loadIfNeeded.1 := by
  unfold loadIfNeeded
  split
  · exact .rfl
  · exact load_settled w key

/-! ## Running a command -/

theorem wipe_stored (w : Workbench) (key : StateKey) : w.wipe.session.stored key =
    if key = .chatHeight then w.session.stored key else none := by
  cases key <;> rfl

theorem wipe_stands (w : Workbench) : Stands .chatHeight w w.wipe := by
  refine ⟨wipe_stored w _, Drawer.get?_remove ?_⟩
  decide

theorem wipe_linkedAt (hkey : key ≠ .chatHeight) : w.wipe.LinkedAt key := by
  intro v hstored
  rw [wipe_stored, if_neg hkey] at hstored
  cases hstored

theorem run_stands {command : String} {outcome : Outcome} (h : w.run command = (w', outcome))
    (hreset : outcome.reset → key = .chatHeight) : Stands key w w' := by
  obtain ⟨desk, sources, log, _, _, hcame⟩ := run_came w command
  have hdesk : Stands key w (w.atDesk desk sources log) := ⟨rfl, rfl⟩
  rw [h] at hcame
  rcases hcame with ⟨_, hran⟩ | ⟨hwiped, hran⟩
  · rw [show w' = _ from hran]
    exact hdesk
  · obtain rfl := hreset hwiped
    rw [show w' = _ from hran]
    exact hdesk.trans (wipe_stands _)

theorem run_linkedAt {command : String} {outcome : Outcome} (h : w.run command = (w', outcome))
    (hreset : outcome.reset) (hkey : key ≠ .chatHeight) : w'.LinkedAt key := by
  obtain ⟨desk, sources, log, _, _, hcame⟩ := run_came w command
  rw [h] at hcame
  rcases hcame with ⟨hno, _⟩ | ⟨_, hran⟩
  · exact absurd (hno.symm.trans hreset) Bool.false_ne_true
  · rw [show w' = _ from hran]
    exact wipe_linkedAt hkey

theorem run_settled (w : Workbench) (command : String) (key : StateKey) :
    Settled key w (w.run command).1 := by
  rcases h : w.run command with ⟨w', outcome⟩
  by_cases hreset : outcome.reset → key = .chatHeight
  · exact .inr (run_stands h hreset)
  · obtain ⟨hreset, hkey⟩ := Classical.not_imp.mp hreset
    exact .inl (run_linkedAt h hreset hkey)

/-! ## Operations -/

theorem post_settled (w : Workbench) (text : String) (sender : Sender) (key : StateKey) :
    Settled key w (w.post text sender).1 := by
  have hadded : Settled key w (w.change (·.append text sender)) := .inr ⟨rfl, rfl⟩
  exact hadded.trans (saveKeys_settled _ StateKey.all key)

theorem Processed.settled {command : String} {result : Except Fault Turn}
    (h : Processed w command (w', result)) (key : StateKey) : Settled key w w' := by
  have hloaded := w.loadIfNeeded_settled key
  cases h with
  | notLoaded h =>
    rw [h] at hloaded
    exact hloaded
  | @notAsked w₁ _ f hload h =>
    rw [hload] at hloaded
    have hasked := post_settled w₁ command .user key
    rw [h] at hasked
    exact hloaded.trans hasked
  | @ran w₁ w₂ w₃ _ outcome _ _ log hload hask hrun hreply hend =>
    rw [hload] at hloaded
    have hasked := post_settled w₁ command .user key
    rw [hask] at hasked
    have hran := run_settled { w₂ with log := log } command key
    rw [hrun] at hran
    have hreplied := post_settled w₃ outcome.message .ai key
    rw [hreply] at hreplied
    have hlogged : Settled key w₂ { w₂ with log := log } := .inr ⟨rfl, rfl⟩
    exact hloaded.trans (hasked.trans (hlogged.trans (hran.trans hreplied)))

theorem submitWith_settled (w : Workbench) (text : String) (meanwhile : List String)
    (key : StateKey) : Settled key w (w.submitWith text meanwhile).1 := by
  rcases h : w.submitWith text meanwhile with ⟨w', result⟩
  have hcame := submitWith_came w text meanwhile
  rw [h] at hcame
  cases hcame with
  | ignored log => exact .inr ⟨rfl, rfl⟩
  | processed hprocessed =>
    have hreserved : Settled key w (w.change ({ · with busy := true })) := .inr ⟨rfl, rfl⟩
    exact hreserved.trans ((hprocessed.settled key).trans (.inr ⟨rfl, rfl⟩))

theorem setHeight_settled (w : Workbench) (height : Int) (key : StateKey) :
    Settled key w (w.setHeight height).1 := by
  have hloaded := w.loadIfNeeded_settled key
  unfold setHeight
  rcases hload : w.loadIfNeeded with ⟨w₁, _ | f⟩
  · rw [hload] at hloaded
    have hresized : Settled key w₁ (w₁.change ({ · with chatHeight := Panel.clamp height })) :=
      .inr ⟨rfl, rfl⟩
    have hsaved := saveKeys_settled (w₁.change ({ · with chatHeight := Panel.clamp height }))
      StateKey.all key
    dsimp only
    rcases hsave : (w₁.change ({ · with chatHeight := Panel.clamp height })).save with ⟨w₂, _ | f⟩
    all_goals
      rw [show saveKeys _ StateKey.all = _ from hsave] at hsaved
      exact hloaded.trans (hresized.trans hsaved)
  · rw [hload] at hloaded
    exact hloaded

/-- Whatever is done with a session and wherever it ends, for each key either what the session
believes is what the drawer holds, or nothing has happened to either. -/
theorem operate_settled (w : Workbench) (op : Operation) (key : StateKey) :
    Settled key w (w.operate op) := by
  cases op with
  | submit text meanwhile => exact submitWith_settled w text meanwhile key
  | setHeight height => exact setHeight_settled w height key
  | load => exact load_settled w key
  | replace settings =>
    unfold operate
    dsimp only
    split
    · next fresh hfresh =>
      refine .inl fun v hstored => ?_
      rw [show fresh.stored = fun _ => none from (Session.start_unused hfresh).stored] at hstored
      cases hstored
    · exact .rfl

theorem operateAll_settled (ops : List Operation) (w : Workbench) (key : StateKey) :
    Settled key w (operateAll ops w) := by
  induction ops generalizing w with
  | nil => exact .rfl
  | cons op ops ih => exact (operate_settled w op key).trans (ih (w.operate op))

end Workbench

end FolderTalk
