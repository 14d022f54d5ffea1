import FolderTalk.Proofs.Session.Failing
import FolderTalk.Proofs.Session.Filing
import FolderTalk.Proofs.Session.Log

/-!
# One command at a time

A command is cut at the pause before its reply, where other texts can be submitted to the same
session.

* `interject` : texts submitted in turn, with what each of them meets;
* `paused`, `resumed` : a command up to its pause and from there on (`submitWith_eq_resumed`);
* `interject_of_busy` : in the pause every text is turned away, and only the log grows;
* `operateAll_free` : whatever is done with a session and however it ends, it is free afterwards;
* `submitWith_oneAtATime` : so a text is never turned away later on, and what comes in during its
  pause leaves no trace in what it comes to.
-/

namespace FolderTalk

/-- What is recorded of a text that came in during a pause: whether it met a busy session, and the
outcome if it was answered with one. -/
def Arrival.of (met : Bool × Except Fault Turn) : Arrival :=
  ⟨met.1, met.2.toOption.bind Turn.outcome⟩

namespace Workbench

variable {w w' p : Workbench} {command : String}

/-! ## The session before, in and after the pause -/

/-- Submits texts in turn. Of each it is noted whether it met a busy session and what the answer
was. -/
def interject (w : Workbench) : List String → Workbench × List (Bool × Except Fault Turn)
  | [] => (w, [])
  | text :: texts =>
    let (w₁, result) := w.submit text
    let (w₂, met) := interject w₁ texts
    (w₂, (w.session.busy, result) :: met)

/-- A command up to its pause: the session is reserved and loaded, and the command is saved in the
transcript. -/
def paused (w : Workbench) (command : String) : Workbench × Option Fault :=
  match (w.marked true).loadIfNeeded with
  | (w, some f) => (w, some f)
  | (w, none) => w.post command .user

/-- A command after its pause, in which the arrivals were seen. -/
def resumed (w : Workbench) (command : String) (arrivals : List Arrival) :
    Workbench × Except Fault Turn :=
  let (w, outcome) := w.run command
  match w.post outcome.message .ai with
  | (w, some f) => (w.marked false, .error f)
  | (w, none) => (w.marked false, .ok ⟨some outcome, [w.session.delay], arrivals⟩)

/-! ## Who changes the mark -/

theorem load_busy (w : Workbench) : w.load.1.session.busy = w.session.busy := by
  rcases h : w.load with ⟨w', _ | f⟩
  · obtain ⟨stored, log, rfl⟩ := load_frame h
    rfl
  · obtain ⟨stored, log, rfl⟩ := load_frame_of_fault h
    rfl

theorem loadIfNeeded_busy (w : Workbench) :
    w.loadIfNeeded.1.session.busy = w.session.busy := by
  unfold loadIfNeeded
  split
  · rfl
  · exact load_busy w

theorem saveKeys_busy (w : Workbench) (keys : List StateKey) :
    (w.saveKeys keys).1.session.busy = w.session.busy := by
  obtain ⟨stored, drawer, hframe⟩ := saveKeys_frame w keys
  rw [hframe]
  rfl

/-- A change of height leaves the session as busy or as free as it was. -/
theorem setHeight_busy (w : Workbench) (height : Int) :
    (w.setHeight height).1.session.busy = w.session.busy := by
  have hloading := loadIfNeeded_busy w
  unfold setHeight
  rcases hload : w.loadIfNeeded with ⟨w₁, _ | f⟩ <;> rw [hload] at hloading
  · have hsaving :=
      saveKeys_busy (w₁.change ({ · with chatHeight := Panel.clamp height })) StateKey.all
    change (save _).1.session.busy = _ at hsaving
    dsimp only
    rcases hsave : (w₁.change ({ · with chatHeight := Panel.clamp height })).save
      with ⟨w₂, _ | f⟩ <;>
    · rw [hsave] at hsaving
      exact hsaving.trans hloading
  · exact hloading

/-- A submission to a free session leaves it free, however it ends. -/
theorem submitWith_free (hfree : w.session.busy = false) (text : String)
    (meanwhile : List String) : (w.submitWith text meanwhile).1.session.busy = false := by
  have hcame := submitWith_came w text meanwhile
  rcases h : w.submitWith text meanwhile with ⟨w', result⟩
  rw [h] at hcame
  cases hcame with
  | ignored log => exact hfree
  | processed hprocessed => rfl

theorem operate_free (hfree : w.session.busy = false) (op : Operation) :
    (w.operate op).session.busy = false := by
  cases op with
  | submit text meanwhile =>
    rw [operate]
    exact submitWith_free hfree text meanwhile
  | setHeight height => exact (setHeight_busy w height).trans hfree
  | load => exact (load_busy w).trans hfree
  | replace settings =>
    unfold operate
    dsimp only
    split
    · next fresh hfresh => exact (Session.start_unused hfresh).busy
    · exact hfree

theorem operateAll_free (hfree : w.session.busy = false) (ops : List Operation) :
    (operateAll ops w).session.busy = false := by
  induction ops generalizing w with
  | nil => exact hfree
  | cons op ops ih => exact ih (operate_free hfree op)

/-! ## In the pause -/

/-- The session is busy in the pause. -/
theorem paused_busy (h : w.paused command = (p, none)) : p.session.busy = true := by
  have hloading := loadIfNeeded_busy (w.marked true)
  unfold paused at h
  split at h
  · cases h
  · next w₁ hload =>
    rw [hload] at hloading
    obtain ⟨stored, drawer, hframe⟩ := post_frame w₁ command .user
    rw [h] at hframe
    rw [show p = _ from hframe]
    exact hloading

/-- A busy session answers nothing, be the text blank or not. -/
theorem submit_of_busy (hbusy : w.session.busy = true) (text : String) :
    w.submit text = (w.turnAway text, .ok { outcome := none }) := by
  unfold submit submitWith turnAway
  dsimp only
  by_cases hblank : (Text.strip text).isEmpty
  · rw [if_pos hblank, if_pos hblank]
  · rw [if_neg hblank, if_neg hblank, if_pos hbusy]

theorem turnAway_busy (w : Workbench) (text : String) :
    (w.turnAway text).session.busy = w.session.busy := by
  unfold turnAway
  dsimp only
  split <;> rfl

/-- In the pause every text is turned away. -/
theorem interject_of_busy (hbusy : w.session.busy = true) (texts : List String) :
    w.interject texts =
      (texts.foldl turnAway w, texts.map fun _ => (true, .ok { outcome := none })) := by
  induction texts generalizing w with
  | nil => rfl
  | cons text texts ih =>
    have hrest := ih ((turnAway_busy w text).trans hbusy)
    rw [interject, submit_of_busy hbusy]
    dsimp only
    rw [hrest, hbusy]
    rfl

/-- **A command with its pause.** A text that is taken up is saved, then whatever comes in during the
pause is submitted to the session as it is then, and then the command is run. -/
theorem submitWith_eq_resumed {text : String} (hfree : w.session.busy = false)
    (hcommand : Text.strip text ≠ "") (meanwhile : List String) :
    w.submitWith text meanwhile =
      match w.paused (Text.strip text) with
      | (p, some f) => (p.marked false, .error f)
      | (p, none) =>
        (p.interject meanwhile).1.resumed (Text.strip text)
          ((p.interject meanwhile).2.map Arrival.of) := by
  rw [submitWith_of_free hfree hcommand]
  rcases hpause : w.paused (Text.strip text) with ⟨p, _ | f⟩
  · have hbusy := paused_busy hpause
    dsimp only
    rw [interject_of_busy hbusy, List.map_map]
    unfold paused at hpause
    rcases hload : (w.marked true).loadIfNeeded with ⟨w₁, _ | f⟩ <;> rw [hload] at hpause
    · unfold process resumed
      rw [hload]
      dsimp only at hpause ⊢
      rw [hpause]
      dsimp only
      rw [hbusy]
      rcases (meanwhile.foldl turnAway p).run (Text.strip text) with ⟨w₃, outcome⟩
      dsimp only
      rcases w₃.post outcome.message .ai with ⟨w₄, _ | f⟩ <;> rfl
    · cases hpause
  · unfold paused at hpause
    unfold process
    rcases hload : (w.marked true).loadIfNeeded with ⟨w₁, _ | f'⟩ <;> rw [hload] at hpause
    · dsimp only at hpause ⊢
      rw [hpause]
    · cases hpause
      rfl

/-! ## After the pause -/

theorem after_cleared (w : Workbench) (log : List Event) :
    ({ w with log := [] } : Workbench).after log = { w with log := log } := by
  rw [after, List.append_nil]

/-- Resuming does the same whatever is in the log; only the arrivals are passed on. -/
theorem resumed_withLog (w : Workbench) (log : List Event) (command : String)
    (arrivals : List Arrival) : ∃ log',
      ({ w with log := log } : Workbench).resumed command arrivals =
        ({ (w.resumed command []).1 with log := log' },
          (w.resumed command []).2.map fun turn => { turn with arrivals := arrivals }) := by
  let base : Workbench := { w with log := [] }
  have hresume : ∀ (earlier : List Event) (arrivals : List Arrival),
      (base.after earlier).resumed command arrivals =
        ((base.resumed command []).1.after earlier,
          (base.resumed command []).2.map fun turn => { turn with arrivals := arrivals }) := by
    intro earlier arrivals
    unfold resumed
    rw [run_after]
    dsimp only
    rw [post_after]
    rcases (base.run command).1.post (base.run command).2.message .ai with ⟨w', _ | f⟩ <;> rfl
  have hown := hresume w.log []
  rw [after_cleared, show ({ w with log := w.log } : Workbench) = w from rfl] at hown
  refine ⟨log ++ (base.resumed command []).1.log, ?_⟩
  rw [← after_cleared, hresume, hown]
  refine Prod.ext rfl ?_
  cases (base.resumed command []).2 <;> rfl

/-- What comes in during the pause shows in the log and among the arrivals, and nowhere else. -/
theorem submitWith_eq_submit {text : String} (hfree : w.session.busy = false)
    (hcommand : Text.strip text ≠ "") (meanwhile : List String) : ∃ log,
      w.submitWith text meanwhile =
        ({ (w.submit text).1 with log := log },
          (w.submit text).2.map fun turn =>
            { turn with arrivals := meanwhile.map fun _ => ⟨true, none⟩ }) := by
  unfold submit
  rw [submitWith_eq_resumed hfree hcommand, submitWith_eq_resumed hfree hcommand]
  rcases hpause : w.paused (Text.strip text) with ⟨p, _ | f⟩
  · have hbusy := paused_busy hpause
    obtain ⟨log, hlog⟩ := foldl_turnAway_eq p meanwhile
    obtain ⟨log', hresume⟩ := resumed_withLog p log (Text.strip text)
      (meanwhile.map fun _ => ⟨true, none⟩)
    refine ⟨log', ?_⟩
    dsimp only
    rw [interject_of_busy hbusy, interject_of_busy hbusy, hlog, List.map_map]
    exact hresume
  · exact ⟨_, rfl⟩

/-- A text that is taken up and ends without a fault has an outcome. -/
theorem outcome_of_free {text : String} (hfree : w.session.busy = false)
    (hcommand : Text.strip text ≠ "") {meanwhile : List String} {turn : Turn}
    (h : (w.submitWith text meanwhile).2 = .ok turn) : turn.outcome.isSome := by
  have hcame := process_came (w.marked true) (Text.strip text) meanwhile
  rw [submitWith_of_free hfree hcommand] at h
  rcases hprocess : (w.marked true).process (Text.strip text) meanwhile with ⟨w', result⟩
  rw [hprocess] at hcame h
  obtain rfl : result = .ok turn := h
  cases hcame with
  | ran _ _ _ _ _ hend =>
    cases hend with
    | answered _ hturn => rw [hturn]; rfl

/-- **One command at a time, and never locked.** Take any session that is free, such as a new one,
over any drawer, and do anything with it, each step ending in any way. Then the session is free. A
text that is not blank is taken up: it is answered with an outcome or ends at a fault. Every text
submitted in the pause before its reply meets a busy session and is answered with nothing, and state,
drawer, sources and answer are what they are if nothing comes in; only the log tells. -/
theorem submitWith_oneAtATime (hfree : w.session.busy = false) (ops : List Operation) :
    let v := operateAll ops w
    v.session.busy = false ∧
    ∀ text meanwhile, Text.strip text ≠ "" →
      (∀ p, v.paused (Text.strip text) = (p, none) →
        (p.interject meanwhile).2 = meanwhile.map (fun _ => (true, .ok { outcome := none })) ∧
        v.submitWith text meanwhile =
          (p.interject meanwhile).1.resumed (Text.strip text)
            ((p.interject meanwhile).2.map Arrival.of)) ∧
      (∃ log, (v.submitWith text meanwhile).1 = { (v.submit text).1 with log := log }) ∧
      (v.submitWith text meanwhile).2 =
        (v.submit text).2.map (fun turn =>
          { turn with arrivals := meanwhile.map fun _ => ⟨true, none⟩ }) ∧
      ∀ turn, (v.submitWith text meanwhile).2 = .ok turn → turn.outcome.isSome := by
  intro v
  have hv : v.session.busy = false := operateAll_free hfree ops
  refine ⟨hv, fun text meanwhile hcommand => ?_⟩
  obtain ⟨log, hsubmit⟩ := submitWith_eq_submit hv hcommand meanwhile
  refine ⟨fun p hpause => ⟨?_, ?_⟩, ⟨log, by rw [hsubmit]⟩, by rw [hsubmit], fun turn h => ?_⟩
  · rw [interject_of_busy (paused_busy hpause)]
  · rw [submitWith_eq_resumed hv hcommand, hpause]
  · exact outcome_of_free hv hcommand h

/-- Three texts come in before an undo, after a command and a change of height. Over a drawer whose
height cannot be read every command ends at a fault, and the session is free for the next. -/
theorem submitWith_oneAtATime_undo :
    let ops : List Operation := [.submit "create folder trips" ["undo", " "], .setHeight 1000]
    let texts := ["reset", " ", "undo"]
    let jammed := { untouched with drawer := ⟨[("chat_height", .text "1e400")]⟩ }
    let v := operateAll ops untouched
    untouched.session.busy = false ∧ Text.strip " undo" ≠ "" ∧ v.session.busy = false ∧
      (∃ p, v.paused (Text.strip " undo") = (p, none) ∧
        (p.interject texts).2 = texts.map fun _ => (true, .ok { outcome := none })) ∧
      (v.submitWith " undo" texts).1.session.state = (v.submit " undo").1.session.state ∧
      (v.submitWith " undo" texts).1.drawer = (v.submit " undo").1.drawer ∧
      (∃ turn, (v.submitWith " undo" texts).2 = .ok turn ∧ turn.outcome.isSome) ∧
      jammed.session.busy = false ∧ (jammed.submit "undo").2.isOk = false ∧
      (operateAll [.submit "undo" texts, .setHeight 500] jammed).session.busy = false := by
  intro ops texts jammed
  have hcommand : Text.strip " undo" ≠ "" := by decide +kernel
  have hpaused : ((operateAll ops untouched).paused (Text.strip " undo")).2 = none := by
    decide +kernel
  have hanswered : ((operateAll ops untouched).submitWith " undo" texts).2.isOk := by
    decide +kernel
  have hjammed : (jammed.submit "undo").2.isOk = false := by decide +kernel
  obtain ⟨hfree, hsubmitted⟩ := submitWith_oneAtATime (w := untouched) rfl ops
  obtain ⟨hjammedFree, _⟩ := submitWith_oneAtATime (w := jammed) rfl
    [.submit "undo" texts, .setHeight 500]
  generalize operateAll ops untouched = v at hfree hsubmitted hpaused hanswered ⊢
  obtain ⟨hmet, ⟨log, hframe⟩, _, houtcome⟩ := hsubmitted " undo" texts hcommand
  refine ⟨rfl, hcommand, hfree, ⟨(v.paused (Text.strip " undo")).1, ?_⟩, ?_, ?_, ?_, rfl, hjammed,
    hjammedFree⟩
  · have hpause : v.paused (Text.strip " undo") = ((v.paused (Text.strip " undo")).1, none) :=
      Prod.ext rfl hpaused
    exact ⟨hpause, (hmet _ hpause).1⟩
  · rw [hframe]
  · rw [hframe]
  · rcases hturn : (v.submitWith " undo" texts).2 with f | turn
    · rw [hturn] at hanswered
      cases hanswered
    · exact ⟨turn, rfl, houtcome turn hturn⟩

end Workbench

end FolderTalk
