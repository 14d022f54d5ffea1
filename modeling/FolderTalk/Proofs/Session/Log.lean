import FolderTalk.Session.Submit

/-!
# The log only grows, and nothing looks at it

Whatever a workbench does, it does the same after any earlier events, and leaves these in front of
what it reports: loading (`load_after`), saving (`saveKeys_after`) and submitting
(`submitWith_after`).
-/

namespace FolderTalk.Workbench

variable (w : Workbench) (earlier : List Event)

/-- The workbench with earlier events in front of its log. -/
def after : Workbench := { w with log := earlier ++ w.log }

@[simp] theorem after_session : (w.after earlier).session = w.session := rfl

@[simp] theorem after_drawer : (w.after earlier).drawer = w.drawer := rfl

@[simp] theorem after_interpret : (w.after earlier).interpret = w.interpret := rfl

theorem report_after (e : Event) : (w.after earlier).report e = (w.report e).after earlier := by
  simp [report, after]

theorem reportAll_after (es : List Event) :
    (w.after earlier).reportAll es = (w.reportAll es).after earlier := by
  simp [reportAll, after]

theorem change_after (f : Session → Session) :
    (w.after earlier).change f = (w.change f).after earlier := rfl

/-! ## Loading -/

theorem note_after (t : Trace) : (w.after earlier).note t = (w.note t).after earlier := by
  unfold note
  rw [reportAll_after]
  cases t.data <;> rfl

theorem noteAll_after (ts : List Trace) :
    (w.after earlier).noteAll ts = ((w.noteAll ts).1.after earlier, (w.noteAll ts).2) := by
  induction ts generalizing w with
  | nil => rfl
  | cons t ts ih =>
    rw [noteAll, noteAll]
    cases t.fault with
    | some f => rfl
    | none =>
      dsimp only
      rw [note_after, ih]

theorem load_after : (w.after earlier).load = (w.load.1.after earlier, w.load.2) := by
  unfold load
  dsimp only
  rw [after_drawer, noteAll_after]
  rcases w.noteAll (Readings.ofDrawer w.drawer).traces with ⟨w', _ | f⟩
  · dsimp only
    rw [change_after, report_after]
    rfl
  · rfl

theorem loadIfNeeded_after :
    (w.after earlier).loadIfNeeded = (w.loadIfNeeded.1.after earlier, w.loadIfNeeded.2) := by
  unfold loadIfNeeded
  rw [load_after, after_session]
  split <;> rfl

/-! ## Saving -/

theorem saveKey_after (key : StateKey) :
    (w.after earlier).saveKey key = ((w.saveKey key).1.after earlier, (w.saveKey key).2) := by
  unfold saveKey
  show (if (w.session.stored key).any (·.same (w.session.state.part key)) then _ else _) = _
  by_cases hstored : (w.session.stored key).any (·.same (w.session.state.part key))
  · rw [if_pos hstored, if_pos hstored]
  · rw [if_neg hstored, if_neg hstored, after_drawer, after_session]
    cases w.drawer.save key.name (w.session.state.part key) <;> rfl

theorem saveKeys_after (keys : List StateKey) :
    (w.after earlier).saveKeys keys = ((w.saveKeys keys).1.after earlier, (w.saveKeys keys).2) := by
  induction keys generalizing w with
  | nil => rfl
  | cons key keys ih =>
    rw [saveKeys, saveKeys, saveKey_after]
    rcases w.saveKey key with ⟨w', _ | f⟩
    · exact ih w'
    · rfl

theorem post_after (text : String) (sender : Sender) :
    (w.after earlier).post text sender =
      ((w.post text sender).1.after earlier, (w.post text sender).2) := by
  unfold post save
  rw [change_after, saveKeys_after]

/-! ## Submitting -/

theorem turnAway_after (text : String) :
    (w.after earlier).turnAway text = (w.turnAway text).after earlier := by
  unfold turnAway
  dsimp only
  split
  · rfl
  · exact report_after ..

theorem foldl_turnAway_after (texts : List String) :
    texts.foldl turnAway (w.after earlier) = (texts.foldl turnAway w).after earlier := by
  induction texts generalizing w with
  | nil => rfl
  | cons text texts ih => rw [List.foldl_cons, List.foldl_cons, turnAway_after, ih]

theorem wipe_after : (w.after earlier).wipe = w.wipe.after earlier := by
  unfold wipe
  rw [← report_after]
  rfl

/-- The workbench with what an intent does to the desk and the sources. -/
def worked (intent : Intent) (effect : Effect) (sources : Sources) : Workbench :=
  { w with session := { w.session with desk := effect.desk }, sources := sources }
    |>.reportAll (application intent effect)

variable {w} in
theorem perform_eq {intent : Intent} {effect : Effect} {sources : Sources} (command : String)
    (h : Engine.execute w.session.palette w.sources intent w.session.desk = (effect, sources)) :
    w.perform command intent =
      (if effect.reset then (w.worked intent effect sources).wipe else w.worked intent effect sources,
        { command := command
          intent := some intent
          message := effect.message
          mutated := effect.mutated
          reset := effect.reset
          selected := effect.desk.selected }) := by
  unfold perform
  rw [h]
  rfl

theorem perform_after (command : String) (intent : Intent) :
    (w.after earlier).perform command intent =
      ((w.perform command intent).1.after earlier, (w.perform command intent).2) := by
  rcases h : Engine.execute w.session.palette w.sources intent w.session.desk with ⟨effect, sources⟩
  have hworked : (w.after earlier).worked intent effect sources =
      (w.worked intent effect sources).after earlier := by
    unfold worked
    rw [← reportAll_after]
    rfl
  rw [perform_eq command h, perform_eq command (w := w.after earlier) h, hworked, wipe_after]
  split <;> rfl

theorem run_after (command : String) :
    (w.after earlier).run command = ((w.run command).1.after earlier, (w.run command).2) := by
  unfold run
  simp only [after_session, after_interpret, report_after]
  cases w.interpret command w.session.desk.store with
  | some intent => exact perform_after ..
  | none => rfl

theorem process_after (command : String) (meanwhile : List String) :
    (w.after earlier).process command meanwhile =
      ((w.process command meanwhile).1.after earlier, (w.process command meanwhile).2) := by
  unfold process
  rw [loadIfNeeded_after]
  rcases w.loadIfNeeded with ⟨w₁, _ | f⟩
  · dsimp only
    rw [post_after]
    rcases w₁.post command .user with ⟨w₂, _ | f⟩
    · simp only [foldl_turnAway_after, run_after, post_after]
      rcases ((List.foldl turnAway w₂ meanwhile).run command).1.post
        ((List.foldl turnAway w₂ meanwhile).run command).2.message .ai with ⟨w₃, _ | f⟩
      · rfl
      · rfl
    · rfl
  · rfl

/-- **Submitting** does the same after any earlier events. -/
theorem submitWith_after (text : String) (meanwhile : List String) :
    (w.after earlier).submitWith text meanwhile =
      ((w.submitWith text meanwhile).1.after earlier, (w.submitWith text meanwhile).2) := by
  unfold submitWith
  simp only [after_session, change_after, process_after, turnAway_after]
  split
  · rfl
  · split <;> rfl

end FolderTalk.Workbench
