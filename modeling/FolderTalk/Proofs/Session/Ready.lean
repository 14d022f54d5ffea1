import FolderTalk.Proofs.Session.Loading
import FolderTalk.Proofs.Session.Processing

/-!
# A session between two commands

A session may be replaced at any time by a new one that is loaded from the same drawer.

* `Ready` : between two commands a session believes to be stored what is stored, and a new session
  in its place is in its state, but for the open folder;
* `submitWith_ready`, `setHeight_ready`, `reload_ready` : completed operations and replacements lead
  from such a session to such a session (`Reached.ready`).
-/

namespace FolderTalk

/-! ## Sessions -/

namespace Session

/-- A session at its beginning. -/
structure Unused (s : Session) : Prop where
  stored : s.stored = fun _ => none
  busy : s.busy = false

/-- A session starts in the initial state and believes nothing to be stored. -/
theorem start_eq {settings : EngineSettings} {name : String} {s : Session}
    (h : Session.start settings name = .ok s) : ∃ delay, s =
      { name := name
        palette := Palette.orBuiltIn settings.folderColors
        delay := delay
        desk := ⟨Store.seed, .empty settings.historyLimit.val settings.historyLimit.property, none⟩
        messages := [Transcript.welcome]
        chatHeight := Panel.defaultHeight } := by
  unfold Session.start at h
  cases hpause : pause settings.responseDelayMs with
  | error f => rw [hpause] at h; cases h
  | ok delay =>
    rw [hpause] at h
    cases h
    refine ⟨delay, ?_⟩
    rw [← History.ofSnapshots_nil]
    rfl

theorem start_unused {settings : EngineSettings} {name : String} {s : Session}
    (h : Session.start settings name = .ok s) : s.Unused := by
  obtain ⟨delay, rfl⟩ := start_eq h
  exact ⟨rfl, rfl⟩

/-- What a loaded session has from its beginning, and the bounds that it keeps to. -/
structure Grown (fresh s : Session) : Prop where
  name : s.name = fresh.name
  palette : s.palette = fresh.palette
  delay : s.delay = fresh.delay
  limit : s.desk.history.limit = fresh.desk.history.limit
  bounded : s.desk.history.size ≤ s.desk.history.limit
  height : Panel.clamp s.chatHeight = s.chatHeight
  loaded : s.loaded = true

/-- The session with the open folder as it is read back. -/
def recalled (s : Session) : Session :=
  { s with desk := { s.desk with selected := recalledFolder s.desk.selected } }

theorem recalled_eq_self {s : Session} (h : s.desk.selected ≠ some "null") : s.recalled = s := by
  rw [recalled, (recalledFolder_eq_self_iff _).mpr h]

theorem state_recalled_eq_self_iff (s : Session) :
    s.state.recalled = s.state ↔ s.desk.selected ≠ some "null" := by
  rw [← recalledFolder_eq_self_iff]
  constructor
  · exact fun h => congrArg SessionState.selected h
  · intro h
    rw [SessionState.recalled, show s.state.selected = s.desk.selected from rfl, h]
    rfl

theorem grown_taking (s : Session) (r : Readings) : s.Grown (s.taking r) where
  name := rfl
  palette := rfl
  delay := rfl
  limit := rfl
  bounded := by
    show (newest _ _).length ≤ _
    rw [length_newest]
    exact Nat.min_le_left _ _
  height := r.clamp_state_chatHeight
  loaded := rfl

/-- A new session that is given the state of a grown one, and all that it has stored, is that one. -/
theorem taking_eq {fresh s : Session} {r : Readings} (hfresh : fresh.Unused) (h : fresh.Grown s)
    (hbusy : s.busy = false) (hstate : r.state = s.state.recalled) (hdata : r.data = s.stored) :
    fresh.taking r = s.recalled := by
  show Session.mk fresh.name fresh.palette fresh.delay
    { store := r.state.store
      history := .ofSnapshots fresh.desk.history.limit fresh.desk.history.limit_pos r.state.history
      selected := r.state.selected }
    r.state.messages r.state.chatHeight true fresh.busy r.data = _
  rw [hstate, hdata, hfresh.busy, ← hbusy, ← h.name, ← h.palette, ← h.delay]
  have hhistory := History.ofSnapshots_eq_self fresh.desk.history.limit_pos h.limit h.bounded
  have hloaded := h.loaded
  obtain ⟨name, palette, delay, desk, messages, chatHeight, loaded, busy, stored⟩ := s
  obtain rfl : loaded = true := hloaded
  show Session.mk name palette delay ⟨desk.store, .ofSnapshots _ _ desk.history.snapshots, _⟩
    messages chatHeight true busy stored = _
  rw [hhistory]
  rfl

end Session

namespace Workbench

variable {fresh : Session} {w w' : Workbench}

/-! ## Replacing the session -/

/-- The workbench with the new session loaded from its drawer. -/
def reload (w : Workbench) (fresh : Session) : Workbench × Option Fault :=
  ({ w with session := fresh } : Workbench).load

/-- A session between two commands: what it believes to be stored is stored, and a new session that
takes its place is in its state. -/
structure Ready (fresh : Session) (w : Workbench) : Prop where
  grown : fresh.Grown w.session
  free : w.session.busy = false
  linked : w.Linked
  reload : ∃ log, w.reload fresh = ({ w with session := w.session.recalled, log := log }, none)

theorem Ready.reload_state (h : Ready fresh w) :
    ∃ w', w.reload fresh = (w', none) ∧ w'.session.state = w.session.state.recalled := by
  obtain ⟨log, hreload⟩ := h.reload
  exact ⟨_, hreload, rfl⟩

/-- A session that has just been loaded is ready, whatever it was loaded from. -/
theorem load_ready (hfresh : fresh.Unused) (hsession : w.session = fresh) (h : w.load = (w', none)) :
    Ready fresh w' := by
  have hstored : w.session.stored = fun _ => none := by rw [hsession, hfresh.stored]
  have hfaultless := faultless_of_load (by rw [h])
  obtain ⟨log, hload⟩ := load_of_faultless hstored hfaultless
  rw [h] at hload
  obtain rfl := (Prod.mk.inj hload).1
  rw [hsession]
  refine ⟨Session.grown_taking _ _, hfresh.busy, fun key v hv => Readings.holds_of_data hv, ?_⟩
  have hrecalled : (fresh.taking (.ofDrawer w.drawer)).recalled = fresh.taking (.ofDrawer w.drawer) := by
    apply Session.recalled_eq_self
    exact (recalledFolder_eq_self_iff _).mp
      (congrArg SessionState.selected (Readings.state_recalled w.drawer))
  rw [hrecalled]
  exact load_of_faultless hfresh.stored hfaultless

/-- A session that has saved every part is ready. -/
theorem ready_of_saved (hfresh : fresh.Unused) (hgrown : fresh.Grown w.session)
    (hfree : w.session.busy = false) (hlinked : w.Linked) (hsaved : ∀ key, w.Saved key) :
    Ready fresh w := by
  refine ⟨hgrown, hfree, hlinked, ?_⟩
  -- What is stored may be another spelling of a part, so it is not the part that is read back.
  choose data hdata hsame using hsaved
  have hholds : ∀ key, w.drawer.Holds key (data key) := fun key => (hlinked key _ (hdata key)).1
  have hgives : ∀ key, Gives key (data key) w.session.state.recalled := fun key =>
    gives_of_same (hholds key).keyed (hlinked key _ (hdata key)).2 (hsame key) hgrown.height
  obtain ⟨hfaultless, hstate, hread⟩ := Readings.of_gives hholds hgives
  obtain ⟨log, hload⟩ := load_of_faultless (w := { w with session := fresh }) hfresh.stored hfaultless
  refine ⟨log, hload.trans ?_⟩
  have htaking : fresh.taking (.ofDrawer w.drawer) = w.session.recalled :=
    Session.taking_eq hfresh hgrown hfree hstate (hread.trans (funext fun key => (hdata key).symm))
  rw [← htaking]

theorem reload_ready (hfresh : fresh.Unused) (h : w.reload fresh = (w', none)) : Ready fresh w' :=
  load_ready hfresh rfl h

/-! ## One command -/

/-- The workbench with another desk and other sources. -/
def atDesk (w : Workbench) (desk : Desk) (sources : Sources) (log : List Event) : Workbench :=
  { w with session := { w.session with desk := desk }, sources := sources, log := log }

/-- Running a command does something to the desk, and wipes what is stored exactly if it is a
reset. -/
theorem run_came (w : Workbench) (command : String) : ∃ desk sources log,
    desk.history.limit = w.session.desk.history.limit ∧
    (w.session.desk.history.size ≤ w.session.desk.history.limit →
      desk.history.size ≤ desk.history.limit) ∧
    ((w.run command).2.reset = false ∧ (w.run command).1 = w.atDesk desk sources log ∨
      (w.run command).2.reset = true ∧
        (w.run command).1 = (w.atDesk desk sources log).wipe) := by
  unfold run
  dsimp only
  cases w.interpret command w.session.desk.store with
  | none => exact ⟨w.session.desk, w.sources, _, rfl, id, .inl ⟨rfl, rfl⟩⟩
  | some intent =>
    let w₁ := w.report (understanding command (some intent))
    rcases h : Engine.execute w₁.session.palette w₁.sources intent w₁.session.desk with ⟨effect, sources⟩
    have hlimit := Engine.step_limit w₁.session.palette (w₁.session.desk, w₁.sources) intent
    have hsize := Engine.step_size_le w₁.session.palette (w₁.session.desk, w₁.sources) intent
    rw [Engine.step, h] at hlimit hsize
    refine ⟨effect.desk, sources, (w₁.worked intent effect sources).log, hlimit, hsize, ?_⟩
    show (w₁.perform command intent).2.reset = _ ∧ (w₁.perform command intent).1 = _ ∨
      (w₁.perform command intent).2.reset = _ ∧ (w₁.perform command intent).1 = _
    rw [perform_eq command h]
    cases hreset : effect.reset with
    | false => exact .inl ⟨rfl, rfl⟩
    | true => exact .inr ⟨rfl, rfl⟩

theorem wipe_linked (hw : w.Linked) : w.wipe.Linked := by
  intro key v hv
  have hkept : key ∉ StateKey.wipedByReset := by
    intro hmem
    have hforgot : w.wipe.session.stored key = none := if_pos (List.contains_iff_mem.mpr hmem)
    rw [hforgot] at hv
    cases hv
  have hstored : w.wipe.session.stored key = w.session.stored key :=
    if_neg (by rw [List.contains_iff_mem]; exact hkept)
  obtain ⟨hholds, huse⟩ := hw key v (hstored ▸ hv)
  refine ⟨(Drawer.holds_congr (Drawer.get?_remove ?_)).mpr hholds, huse⟩
  intro hmem
  obtain ⟨k, hk, hname⟩ := List.mem_map.mp hmem
  exact hkept (StateKey.name_injective hname ▸ hk)

theorem run_linked (command : String) (hw : w.Linked) : (w.run command).1.Linked := by
  obtain ⟨desk, sources, log, _, _, hcame⟩ := run_came w command
  have hatDesk : (w.atDesk desk sources log).Linked := hw.of_eq rfl rfl
  rcases hcame with ⟨_, hcame⟩ | ⟨_, hcame⟩
  · rw [hcame]
    exact hatDesk
  · rw [hcame]
    exact wipe_linked hatDesk

theorem run_grown (command : String) (hgrown : fresh.Grown w.session) :
    fresh.Grown (w.run command).1.session := by
  obtain ⟨desk, sources, log, hlimit, hsize, hcame⟩ := run_came w command
  have hdesk : fresh.Grown { w.session with desk := desk } :=
    { hgrown with limit := hlimit.trans hgrown.limit, bounded := hsize hgrown.bounded }
  rcases hcame with ⟨_, hcame⟩ | ⟨_, hcame⟩
  · rw [hcame]
    exact hdesk
  · rw [hcame]
    exact { hdesk with }

/-- A save without a fault leaves everything saved. -/
theorem save_keeps (hgrown : fresh.Grown w.session) (hlinked : w.Linked) (h : w.save = (w', none)) :
    fresh.Grown w'.session ∧ w'.Linked ∧ ∀ key, w'.Saved key := by
  obtain ⟨stored, drawer, rfl⟩ := save_frame h
  exact ⟨{ hgrown with }, save_spec hlinked h⟩

theorem save_busy (h : w.save = (w', none)) : w'.session.busy = w.session.busy := by
  obtain ⟨stored, drawer, rfl⟩ := save_frame h
  rfl

theorem post_keeps {text : String} {sender : Sender} (hgrown : fresh.Grown w.session)
    (hlinked : w.Linked) (h : w.post text sender = (w', none)) :
    fresh.Grown w'.session ∧ w'.Linked ∧ ∀ key, w'.Saved key :=
  save_keeps (w := w.change (·.append text sender)) { hgrown with } (hlinked.of_eq rfl rfl) h

/-- After a command that meets no fault everything is saved. -/
theorem process_keeps {command : String} {meanwhile : List String} {turn : Turn}
    (hgrown : fresh.Grown w.session) (hlinked : w.Linked)
    (h : w.process command meanwhile = (w', .ok turn)) :
    fresh.Grown w'.session ∧ w'.Linked ∧ ∀ key, w'.Saved key := by
  have hcame := process_came w command meanwhile
  rw [h] at hcame
  cases hcame with
  | @ran _ w₂ _ _ _ _ _ log hload hask hrun hreply hend =>
    cases hend
    rw [loadIfNeeded, if_pos hgrown.loaded] at hload
    cases hload
    obtain ⟨hgrown₁, hlinked₁, _⟩ := post_keeps hgrown hlinked hask
    have hgrown₂ := run_grown (w := { w₂ with log := log }) command hgrown₁
    have hlinked₂ := run_linked (w := { w₂ with log := log }) command (hlinked₁.of_eq rfl rfl)
    rw [hrun] at hgrown₂ hlinked₂
    exact post_keeps hgrown₂ hlinked₂ hreply

theorem submitWith_ready (hfresh : fresh.Unused) {text : String} {meanwhile : List String}
    {turn : Turn} (hw : Ready fresh w) (h : w.submitWith text meanwhile = (w', .ok turn)) :
    Ready fresh w' := by
  unfold submitWith at h
  dsimp only at h
  split at h
  · cases h
    exact hw
  · rw [hw.free, if_neg Bool.false_ne_true] at h
    rcases hprocess : (w.change ({ · with busy := true })).process (Text.strip text) meanwhile with
      ⟨w₁, result⟩
    rw [hprocess] at h
    cases h
    have hreserved : fresh.Grown { w.session with busy := true } := { hw.grown with }
    obtain ⟨hgrown, hlinked, hsaved⟩ := process_keeps (w := w.change ({ · with busy := true }))
      hreserved (hw.linked.of_eq rfl rfl) hprocess
    exact ready_of_saved hfresh { hgrown with } rfl (hlinked.of_eq rfl rfl) hsaved

theorem setHeight_ready (hfresh : fresh.Unused) {height result : Int} (hw : Ready fresh w)
    (h : w.setHeight height = (w', .ok result)) : Ready fresh w' := by
  unfold setHeight loadIfNeeded at h
  rw [if_pos hw.grown.loaded] at h
  dsimp only at h
  split at h
  · cases h
  · next w₁ hsave =>
    cases h
    have hclamped : fresh.Grown { w.session with chatHeight := Panel.clamp height } :=
      { hw.grown with height := clamp_clamp height }
    obtain ⟨hgrown, hlinked, hsaved⟩ := save_keeps
      (w := w.change ({ · with chatHeight := Panel.clamp height })) hclamped
      (hw.linked.of_eq rfl rfl) hsave
    exact ready_of_saved hfresh hgrown ((save_busy hsave).trans hw.free) hlinked hsaved

/-! ## Reached workbenches -/

/-- The workbenches that completed operations and replacements lead to from a loaded one. -/
inductive Reached (w₀ : Workbench) : Workbench → Prop
  | loaded {w : Workbench} (h : w₀.load = (w, none)) : Reached w₀ w
  | submitted {w w' : Workbench} {text : String} {meanwhile : List String} {turn : Turn}
      (hw : Reached w₀ w) (h : w.submitWith text meanwhile = (w', .ok turn)) : Reached w₀ w'
  | resized {w w' : Workbench} {height result : Int} (hw : Reached w₀ w)
      (h : w.setHeight height = (w', .ok result)) : Reached w₀ w'
  | replaced {w w' : Workbench} (hw : Reached w₀ w) (h : w.reload w₀.session = (w', none)) :
      Reached w₀ w'

theorem Reached.submit {w₀ : Workbench} {text : String} (hw : Reached w₀ w)
    (h : (w.submit text).2.isOk) : Reached w₀ (w.submit text).1 := by
  rcases hsubmit : w.submit text with ⟨w', f | turn⟩
  · rw [hsubmit] at h
    cases h
  · exact .submitted hw hsubmit

theorem Reached.ready {w₀ : Workbench} (hfresh : w₀.session.Unused) (h : Reached w₀ w) :
    Ready w₀.session w := by
  induction h with
  | loaded h => exact load_ready hfresh rfl h
  | submitted _ h ih => exact submitWith_ready hfresh ih h
  | resized _ h ih => exact setHeight_ready hfresh ih h
  | replaced _ h _ => exact reload_ready hfresh h

end Workbench

end FolderTalk
