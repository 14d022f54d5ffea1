import FolderTalk.Proofs.Session.Failing
import FolderTalk.Proofs.Session.Settled

/-!
# What a save repairs

The documents of a session may be damaged, and the session loaded again. What it believes about a
document that loading passes over stays as it was, and the next save goes by that belief.

* `FiledAt` : the drawer holds the same as a part of the state;
* `Misled` : the session believes so, but the drawer does not;
* `Completed` : a command has been answered or the height been changed;
* `Answering` : the two saves of an answered command, and what each of them passes over;
* `load_repairs` : what is completed after a loading leaves each part in the drawer, except exactly
  those about which the loaded session is misled whenever it saves.
-/

namespace FolderTalk.Workbench

variable {w w' w₁ : Workbench} {key : StateKey}

/-! ## Parts that are not filed -/

/-- The drawer holds, for the key, the same as the part of the state. -/
def FiledAt (w : Workbench) (key : StateKey) : Prop :=
  ∃ v, w.drawer.Holds key v ∧ v.same (w.session.state.part key)

/-- The session believes the part of a state to be stored under the key, and the drawer does not
hold it. -/
def Misled (w : Workbench) (key : StateKey) (s : SessionState) : Prop :=
  (∃ v, w.session.stored key = some v ∧ v.same (s.part key)) ∧
    ¬ ∃ v, w.drawer.Holds key v ∧ v.same (s.part key)

theorem LinkedAt.filedAt (h : w.LinkedAt key) (hsaved : w.Saved key) : w.FiledAt key := by
  obtain ⟨v, hstored, hsame⟩ := hsaved
  exact ⟨v, h v hstored, hsame⟩

/-- If both stand, then a part that is believed to be saved is filed unless the session was misled
about it. -/
theorem Stands.not_filedAt_iff (h : Stands key w w') (hsaved : w'.Saved key) :
    ¬ w'.FiledAt key ↔ w.Misled key w'.session.state := by
  have hfiled : w'.FiledAt key ↔ ∃ v, w.drawer.Holds key v ∧ v.same (w'.session.state.part key) :=
    exists_congr fun v => and_congr_left' h.holds_iff
  obtain ⟨v, hstored, hsame⟩ := hsaved
  rw [hfiled, Misled, and_iff_right ⟨v, h.stored.symm.trans hstored, hsame⟩]

theorem Settled.filedAt_or (h : Settled key w w') (hsaved : w'.Saved key) :
    w'.FiledAt key ∨ w.Misled key w'.session.state := by
  rcases h with hlinked | hstands
  · exact .inl (hlinked.filedAt hsaved)
  · exact (Classical.em _).imp_right (hstands.not_filedAt_iff hsaved).mp

theorem LinkedAt.not_misled (h : w.LinkedAt key) (s : SessionState) : ¬ w.Misled key s :=
  fun ⟨⟨v, hstored, hsame⟩, hnone⟩ => hnone ⟨v, h v hstored, hsame⟩

theorem Stands.misled_iff (h : Stands key w w') {s : SessionState} :
    w'.Misled key s ↔ w.Misled key s := by
  unfold Misled
  rw [h.stored]
  simp only [h.holds_iff]

/-- After a loading that ends well, a session is misled exactly about documents that it has passed
over and was misled about before. -/
theorem load_misled_iff (h : w.load = (w', none)) (key : StateKey) (s : SessionState) :
    w'.Misled key s ↔ w.drawer.PassedOver key ∧ w.Misled key s := by
  obtain ⟨hpassed, hread⟩ := load_linkedAt h key
  by_cases hkey : w.drawer.PassedOver key
  · rw [(hpassed hkey).misled_iff, and_iff_right hkey]
  · exact iff_of_false ((hread hkey).not_misled s) fun ⟨h, _⟩ => hkey h

/-! ## Completed operations -/

/-- A command is answered, with its outcome, or the height is changed. -/
inductive Completed (w : Workbench) : Option Outcome → Workbench → Prop
  | submitted {w' : Workbench} {text : String} {meanwhile : List String} {turn : Turn}
      {outcome : Outcome} (h : w.submitWith text meanwhile = (w', .ok turn))
      (houtcome : turn.outcome = some outcome) : Completed w (some outcome) w'
  | resized {w' : Workbench} {height result : Int} (h : w.setHeight height = (w', .ok result)) :
      Completed w none w'

/-- A session that has been loaded is not loaded for an operation, and another load over the same
drawer would meet the same fault. -/
theorem loadIfNeeded_after_load (h : w.load.1.loadIfNeeded = (w', none)) : w' = w.load.1 := by
  unfold loadIfNeeded at h
  split at h
  · cases h
    rfl
  · next hnot =>
    rcases hload : w.load with ⟨loaded, _ | f⟩
    · rw [hload] at hnot
      obtain ⟨stored, log, rfl⟩ := load_frame hload
      exact absurd rfl hnot
    · have hagain := w.load.1.load_fault
      rw [h, w.load_drawer, ← w.load_fault, hload] at hagain
      cases hagain

/-- Adding a message is no news about the other parts. -/
theorem saved_append_iff (text : String) (sender : Sender) (hkey : key ≠ .messages) :
    (w.change (·.append text sender)).Saved key ↔ w.Saved key := by
  cases key with
  | messages => exact absurd rfl hkey
  | _ => exact Iff.rfl

/-- The steps of an answered command in a session that has been loaded and reserved for it. -/
structure Answering (w : Workbench) (command : String) (outcome : Outcome) where
  asked : Workbench
  /-- The log after what came in during the pause. -/
  log : List Event
  ran : Workbench
  replied : Workbench
  ask : w.post command .user = (asked, none)
  run : ({ asked with log := log } : Workbench).run command = (ran, outcome)
  reply : ran.post outcome.message .ai = (replied, none)

namespace Answering
variable {command : String} {outcome : Outcome} (a : Answering w command outcome)
include a

theorem saved (key : StateKey) : a.replied.Saved key := saveKeys_saved a.reply key.mem_all

theorem ask_stands (hkey : key ≠ .messages) (hsaved : w.Saved key) : Stands key w a.asked := by
  have hadded : Stands key w (w.change (·.append command .user)) := ⟨rfl, rfl⟩
  exact hadded.trans (save_stands a.ask ((saved_append_iff _ _ hkey).mpr hsaved))

theorem run_stands (hreset : outcome.reset → key = .chatHeight) : Stands key a.asked a.ran := by
  have hlogged : Stands key a.asked { a.asked with log := a.log } := ⟨rfl, rfl⟩
  exact hlogged.trans (Workbench.run_stands a.run hreset)

theorem adding_stands (key : StateKey) :
    Stands key a.ran (a.ran.change (·.append outcome.message .ai)) := ⟨rfl, rfl⟩

/-- The transcript is not believed to be saved when the reply is added, unless it has been wiped. -/
theorem not_saved_messages (hreset : ¬ outcome.reset) :
    ¬ (a.ran.change (·.append outcome.message .ai)).Saved .messages := by
  obtain ⟨desk, sources, log, _, _, hcame⟩ := run_came { a.asked with log := a.log } command
  rw [a.run] at hcame
  obtain ⟨_, hran⟩ := hcame.resolve_right fun h => hreset h.1
  rw [show a.ran = _ from hran]
  have hsaved : a.asked.Saved .messages := saveKeys_saved a.ask (StateKey.mem_all _)
  exact not_saved_append (w := atDesk { a.asked with log := a.log } desk sources log) hsaved _ _

/-- What an answered command leaves unfiled it has passed over twice, and so it is not the transcript:
that one has one more message each time. -/
theorem misled (h : ¬ a.replied.FiledAt key) : w.Misled key a.replied.session.state ∧
    key ≠ .messages ∧ w.Saved key ∧ (outcome.reset → key = .chatHeight) := by
  have hnot : ¬ a.replied.LinkedAt key := fun hlinked => h (hlinked.filedAt (a.saved key))
  obtain ⟨hreplying, hreplied⟩ := (save_settled a.reply key).resolve_left hnot
  have hnot_ran : ¬ a.ran.LinkedAt key := fun hlinked =>
    hnot (((a.adding_stands key).trans hreplied).linkedAt hlinked)
  have hreset : outcome.reset → key = .chatHeight := fun hreset =>
    by_contra fun hkey => hnot_ran (run_linkedAt a.run hreset hkey)
  have hnot_asked : ¬ a.asked.LinkedAt key := fun hlinked =>
    hnot_ran ((a.run_stands hreset).linkedAt hlinked)
  obtain ⟨hasking, _⟩ := (save_settled a.ask key).resolve_left hnot_asked
  have hkey : key ≠ .messages := by
    rintro rfl
    exact a.not_saved_messages (fun hwiped => absurd (hreset hwiped) (by decide)) hreplying
  have hsaved : w.Saved key := (saved_append_iff _ _ hkey).mp hasking
  have hstands : Stands key w a.replied := (a.ask_stands hkey hsaved).trans <|
    (a.run_stands hreset).trans <| (a.adding_stands key).trans hreplied
  exact ⟨(hstands.not_filedAt_iff (a.saved key)).mp h, hkey, hsaved, hreset⟩

theorem not_filedAt (hmisled : w.Misled key a.replied.session.state) (hkey : key ≠ .messages)
    (hsaved : w.Saved key) (hreset : outcome.reset → key = .chatHeight) :
    ¬ a.replied.FiledAt key := by
  have hran : Stands key w (a.ran.change (·.append outcome.message .ai)) :=
    (a.ask_stands hkey hsaved).trans ((a.run_stands hreset).trans (a.adding_stands key))
  have hreplying : (a.ran.change (·.append outcome.message .ai)).Saved key := by
    obtain ⟨v, hstored, hsame⟩ := hmisled.1
    obtain ⟨stored, drawer, hframe⟩ := save_frame a.reply
    rw [hframe] at hsame
    exact ⟨v, hran.stored.trans hstored, hsame⟩
  have hstands := hran.trans (save_stands a.reply hreplying)
  exact (hstands.not_filedAt_iff (a.saved key)).mpr hmisled

end Answering

/-- A command that is answered has been loaded for, if need be, and then processed. -/
theorem submitWith_answered {text : String} {meanwhile : List String} {turn : Turn}
    {outcome : Outcome} (h : w.submitWith text meanwhile = (w', .ok turn))
    (houtcome : turn.outcome = some outcome) :
    ∃ w₁, w.loadIfNeeded = (w₁, none) ∧
      ∃ a : Answering (w₁.marked true) (Text.strip text) outcome, w' = a.replied.marked false := by
  have hcame := submitWith_came w text meanwhile
  rw [h] at hcame
  cases hcame with
  | ignored log => cases houtcome
  | processed hprocessed =>
    cases hprocessed with
    | ran log hload hask hrun hreply hend =>
      rw [show w.change _ = w.marked true from rfl, loadIfNeeded_marked] at hload
      rcases hloaded : w.loadIfNeeded with ⟨w₁, fault⟩
      rw [hloaded] at hload
      cases hload
      cases hend with
      | answered _ hturn =>
        obtain rfl := Option.some.inj (hturn.symm.trans houtcome)
        exact ⟨w₁, rfl, ⟨_, log, _, _, hask, hrun, hreply⟩, rfl⟩

/-- The height is changed in a session that has been loaded, if need be, and then saved. -/
theorem setHeight_resized {height result : Int} (h : w.setHeight height = (w', .ok result)) :
    ∃ w₁, w.loadIfNeeded = (w₁, none) ∧
      (w₁.change ({ · with chatHeight := Panel.clamp height })).save = (w', none) := by
  unfold setHeight at h
  split at h
  · cases h
  · next w₁ hload =>
    split at h
    · cases h
    · next w₂ hsave =>
      cases h
      exact ⟨w₁, hload, hsave⟩

namespace Completed
variable {answer : Option Outcome}

theorem loaded (h : Completed w answer w') : w.loadIfNeeded.2 = none := by
  cases h with
  | submitted h houtcome =>
    obtain ⟨w₁, hload, _⟩ := submitWith_answered h houtcome
    rw [hload]
  | resized h =>
    obtain ⟨w₁, hload, _⟩ := setHeight_resized h
    rw [hload]

theorem saved (h : Completed w answer w') (key : StateKey) : w'.Saved key := by
  cases h with
  | submitted h houtcome =>
    obtain ⟨w₁, _, a, rfl⟩ := submitWith_answered h houtcome
    exact a.saved key
  | resized h =>
    obtain ⟨w₁, _, hsave⟩ := setHeight_resized h
    exact saveKeys_saved hsave key.mem_all

theorem settled (h : Completed w answer w') (key : StateKey) : Settled key w w' := by
  cases h with
  | @submitted _ text meanwhile _ _ h _ =>
    have hsettled := submitWith_settled w text meanwhile key
    rw [h] at hsettled
    exact hsettled
  | @resized _ height _ h =>
    have hsettled := setHeight_settled w height key
    rw [h] at hsettled
    exact hsettled

/-- What is completed in a loaded session leaves unfiled exactly that about which the session is
misled whenever it saves. -/
theorem not_filedAt_iff (h : Completed w answer w') (hload : w.loadIfNeeded = (w, none))
    (key : StateKey) :
    ¬ w'.FiledAt key ↔ w.Misled key w'.session.state ∧ ∀ outcome ∈ answer,
      key ≠ .messages ∧ w.Saved key ∧ (outcome.reset → key = .chatHeight) := by
  have hsaved := h.saved key
  have hfiled := (h.settled key).filedAt_or hsaved
  cases h with
  | submitted h houtcome =>
    obtain ⟨w₁, hload', a, rfl⟩ := submitWith_answered h houtcome
    obtain rfl : w = w₁ := (Prod.mk.inj (hload.symm.trans hload')).1
    simp only [Option.mem_some_iff, forall_eq']
    exact ⟨a.misled, fun ⟨hmisled, hkey, hsaved, hreset⟩ => a.not_filedAt hmisled hkey hsaved hreset⟩
  | @resized _ height _ h =>
    refine ⟨fun hnot => ⟨hfiled.resolve_left hnot, by simp⟩, fun ⟨hmisled, _⟩ => ?_⟩
    obtain ⟨w₁, hload', hsave⟩ := setHeight_resized h
    obtain rfl : w = w₁ := (Prod.mk.inj (hload.symm.trans hload')).1
    have hresized : Stands key w (w.change ({ · with chatHeight := Panel.clamp height })) :=
      ⟨rfl, rfl⟩
    have hstands := hresized.trans <| save_stands hsave <| by
      obtain ⟨v, hstored, hsame⟩ := hmisled.1
      obtain ⟨stored, drawer, rfl⟩ := save_frame hsave
      exact ⟨v, hstored, hsame⟩
    exact (hstands.not_filedAt_iff hsaved).mpr hmisled

end Completed

theorem completed_setHeight {height : Int} (h : (w.setHeight height).2.isOk) :
    Completed w none (w.setHeight height).1 := by
  rcases hheight : w.setHeight height with ⟨w', f | result⟩
  · rw [hheight] at h
    cases h
  · exact .resized hheight

theorem completed_submit {text : String} {outcome : Outcome}
    (h : (w.submit text).2.toOption.bind Turn.outcome = some outcome) :
    Completed w (some outcome) (w.submit text).1 := by
  rcases hsubmit : w.submit text with ⟨w', f | turn⟩
  · rw [hsubmit] at h
    cases h
  · rw [hsubmit] at h
    exact .submitted hsubmit h

/-- **What the next save repairs.** Let the drawer of any session change to any other, and let the
session load from that. If the loading ends well, then the session is misled exactly about documents
that it has passed over and was misled about before. Whatever is done from then on, an answered
command or a change of height leaves each part in the drawer unless the loaded session was misled
about it; and if it is the very next thing that is done, then the parts that it does not leave there
are exactly those about which the session is misled whenever it saves. An answered command saves
twice, each time with one more message, and a reset wipes every belief but the one about the
height. -/
theorem load_repairs (w : Workbench) (d : Drawer) :
    let changed : Workbench := { w with drawer := d }
    let loaded := changed.load.1
    (changed.load.2 = none → ∀ key s,
      loaded.Misled key s ↔ d.PassedOver key ∧ changed.Misled key s) ∧
    (∀ ops answer w', Completed (operateAll ops loaded) answer w' → ∀ key,
      w'.FiledAt key ∨ loaded.Misled key w'.session.state) ∧
    ∀ answer w', Completed loaded answer w' → ∀ key,
      ¬ w'.FiledAt key ↔ loaded.Misled key w'.session.state ∧ ∀ outcome ∈ answer,
        key ≠ .messages ∧ loaded.Saved key ∧ (outcome.reset → key = .chatHeight) := by
  intro changed loaded
  refine ⟨fun hwell key s => ?_, fun ops answer w' h key => ?_, fun answer w' h key => ?_⟩
  · exact load_misled_iff (Prod.ext rfl hwell : changed.load = (loaded, none)) key s
  · exact ((operateAll_settled ops loaded key).trans (h.settled key)).filedAt_or (h.saved key)
  · have hload : loaded.loadIfNeeded = (loaded.loadIfNeeded.1, none) := Prod.ext rfl h.loaded
    rw [loadIfNeeded_after_load hload] at hload
    exact h.not_filedAt_iff hload key

/-- A drawer in which every document has been damaged. -/
def damagedDrawer : Drawer := ⟨StateKey.all.map fun key => (key.name, .text "\x7b")⟩

theorem not_holds_damagedDrawer (key : StateKey) (v : Value) : ¬ damagedDrawer.Holds key v := by
  rintro ⟨doc, hdoc, hvalue⟩
  have hunreadable : damagedDrawer.get? key.name = some (.text "\x7b") := by
    cases key <;> decide
  obtain rfl := Option.some.inj (hunreadable.symm.trans hdoc)
  have hinvalid : (Document.text "\x7b").value.toOption = none := by decide +kernel
  rw [hvalue] at hinvalid
  cases hinvalid

theorem misled_damagedDrawer {s : SessionState} (hdrawer : w.drawer = damagedDrawer)
    (h : (w.session.stored key).any (·.same (s.part key))) : w.Misled key s := by
  refine ⟨(Option.any_eq_true _ _).mp h, ?_⟩
  rintro ⟨v, hholds, _⟩
  rw [hdrawer] at hholds
  exact not_holds_damagedDrawer key v hholds

/-- All documents are damaged after everything has been saved. Another height is left in the drawer,
but the folders are not; a reset leaves the folders there, but not the height. -/
theorem load_repairs_damaged :
    let w := (untouched.setHeight 600).1
    let loaded := ({ w with drawer := damagedDrawer } : Workbench).load.1
    Session.start { responseDelayMs := 0 } "work" = .ok untouched.session ∧
      ({ w with drawer := damagedDrawer } : Workbench).load.2 = none ∧
      (loaded.setHeight 500).2.isOk ∧ (loaded.submit "reset").2.isOk ∧
      (loaded.setHeight 500).1.FiledAt .chatHeight ∧ ¬ (loaded.setHeight 500).1.FiledAt .folders ∧
      (loaded.submit "reset").1.FiledAt .folders ∧
      ¬ (loaded.submit "reset").1.FiledAt .chatHeight := by
  intro w loaded
  have hrun : ({ w with drawer := damagedDrawer } : Workbench).load.2 = none ∧
      (loaded.setHeight 500).2.isOk ∧
      ((loaded.submit "reset").2.toOption.bind Turn.outcome).any Outcome.reset ∧
      ¬ (loaded.session.stored .chatHeight).any
        (·.same ((loaded.setHeight 500).1.session.state.part .chatHeight)) ∧
      (w.session.stored .folders).any
        (·.same ((loaded.setHeight 500).1.session.state.part .folders)) ∧
      (w.session.stored .chatHeight).any
        (·.same ((loaded.submit "reset").1.session.state.part .chatHeight)) ∧
      (loaded.session.stored .chatHeight).any (·.same (loaded.session.state.part .chatHeight)) := by
    decide +kernel
  clear_value w
  obtain ⟨hwell, hheight, hreset, hother, hfolders, hsame, hsaved⟩ := hrun
  obtain ⟨outcome, houtcome, hwiped⟩ := (Option.any_eq_true _ _).mp hreset
  obtain ⟨hmisled, hlater, hnext⟩ := load_repairs w damagedDrawer
  have hbelieved : ∀ key s, (w.session.stored key).any (·.same (s.part key)) →
      loaded.Misled key s := fun key s h => (hmisled hwell key s).mpr
    ⟨fun v hholds => absurd hholds (not_holds_damagedDrawer key v), misled_damagedDrawer rfl h⟩
  have hresized := completed_setHeight hheight
  have hanswered := completed_submit houtcome
  refine ⟨start_untouched, hwell, hheight, ?_, ?_, ?_, ?_, ?_⟩
  · rcases h : loaded.submit "reset" with ⟨w', f | turn⟩
    · rw [h] at houtcome
      cases houtcome
    · rfl
  · exact (hlater [] _ _ hresized .chatHeight).resolve_right fun h =>
      hother ((Option.any_eq_true _ _).mpr h.1)
  · exact (hnext _ _ hresized .folders).mpr ⟨hbelieved _ _ hfolders, by simp⟩
  · by_contra hnot
    exact absurd (((hnext _ _ hanswered .folders).mp hnot).2 outcome rfl).2.2 (by simp [hwiped])
  · refine (hnext _ _ hanswered .chatHeight).mpr ⟨hbelieved _ _ hsame, ?_⟩
    rintro _ ⟨⟩
    exact ⟨by decide, (Option.any_eq_true _ _).mp hsaved, fun _ => rfl⟩

/-- The same height is set again, and all six documents stay damaged. -/
theorem load_unrepaired_damaged :
    let w := (untouched.setHeight 600).1
    let loaded := ({ w with drawer := damagedDrawer } : Workbench).load.1
    Session.start { responseDelayMs := 0 } "work" = .ok untouched.session ∧
      ({ w with drawer := damagedDrawer } : Workbench).load.2 = none ∧
      (loaded.setHeight 600).2.isOk ∧ ∀ key, ¬ (loaded.setHeight 600).1.FiledAt key := by
  intro w loaded
  have hrun : ({ w with drawer := damagedDrawer } : Workbench).load.2 = none ∧
      (loaded.setHeight 600).2.isOk ∧ (loaded.setHeight 600).1.drawer = damagedDrawer := by
    decide +kernel
  obtain ⟨hload, hresized, hdrawer⟩ := hrun
  refine ⟨start_untouched, hload, hresized, ?_⟩
  rintro key ⟨v, hholds, _⟩
  rw [hdrawer] at hholds
  exact not_holds_damagedDrawer key v hholds

end FolderTalk.Workbench
