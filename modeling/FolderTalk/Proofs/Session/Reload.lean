import FolderTalk.Proofs.Session.Ready

/-!
# Runs with and without new sessions

* `watch` : what a run shows, its session replaced by a new one before some of the commands;
* `SparesNull` : the session is not replaced while the folder with the word for null for its
  identifier is open;
* `reload_transparent` : a replacement gives back the whole state, except that this folder is no
  longer open; so a run shows the same with and without the replacements exactly if it spares it.
-/

namespace FolderTalk.Workbench

variable {fresh : Session} {w w' : Workbench}

/-- One command of a run, before which the session may be replaced. The texts in `meanwhile` come in
during the pause before the reply. -/
structure Order where
  text : String
  meanwhile : List String := []
  afresh : Bool := false

/-- The command without a replacement before it. -/
def Order.kept (o : Order) : Order := { o with afresh := false }

@[simp] theorem Order.kept_text (o : Order) : o.kept.text = o.text := rfl

@[simp] theorem Order.kept_meanwhile (o : Order) : o.kept.meanwhile = o.meanwhile := rfl

/-- What a run shows of one command: the state in which it is taken, the answer to it and the state
afterwards. -/
structure Sight where
  before : SessionState
  answer : Except Fault Turn
  after : SessionState

def renew (w : Workbench) (fresh : Session) (o : Order) : Workbench × Option Fault :=
  if o.afresh then w.reload fresh else (w, none)

/-- What a run shows, command by command, up to the first fault. -/
def watch (fresh : Session) (w : Workbench) : List Order → List Sight
  | [] => []
  | o :: os =>
    match w.renew fresh o with
    | (w₁, some f) => [⟨w₁.session.state, .error f, w₁.session.state⟩]
    | (w₁, none) =>
      match w₁.submitWith o.text o.meanwhile with
      | (w₂, .error f) => [⟨w₁.session.state, .error f, w₂.session.state⟩]
      | (w₂, .ok turn) => ⟨w₁.session.state, .ok turn, w₂.session.state⟩ :: watch fresh w₂ os

/-- In the run without replacements, no command that asks for one comes while the folder with the
word for null for its identifier is open. -/
def SparesNull (w : Workbench) : List Order → Prop
  | [] => True
  | o :: os =>
    (o.afresh = true → w.session.desk.selected ≠ some "null") ∧
      ((w.submitWith o.text o.meanwhile).2.isOk → SparesNull (w.submitWith o.text o.meanwhile).1 os)

instance decidableSparesNull : ∀ (w : Workbench) os, Decidable (SparesNull w os)
  | _, [] => inferInstanceAs (Decidable True)
  | w, o :: os =>
    have := decidableSparesNull (w.submitWith o.text o.meanwhile).1 os
    inferInstanceAs (Decidable (_ ∧ (_ → _)))

theorem watch_after (fresh : Session) (w : Workbench) (earlier : List Event) (os : List Order) :
    watch fresh (w.after earlier) os = watch fresh w os := by
  induction os generalizing w with
  | nil => rfl
  | cons o os ih =>
    have hrenew : (w.after earlier).renew fresh o =
        ((w.renew fresh o).1.after earlier, (w.renew fresh o).2) := by
      unfold renew
      split
      · exact load_after { w with session := fresh } earlier
      · rfl
    rw [watch, watch, hrenew]
    rcases w.renew fresh o with ⟨w₁, _ | f⟩
    · dsimp only
      rw [submitWith_after]
      rcases w₁.submitWith o.text o.meanwhile with ⟨w₂, f | turn⟩
      · rfl
      · dsimp only
        rw [ih]
        rfl
    · rfl

theorem watch_log (fresh : Session) (w : Workbench) (log : List Event) (os : List Order) :
    watch fresh { w with log := log } os = watch fresh w os := by
  have hlog : ∀ log, watch fresh { w with log := log } os = watch fresh { w with log := [] } os := by
    intro log
    have hafter : { w with log := log } = ({ w with log := [] } : Workbench).after log := by
      rw [after, List.append_nil]
    rw [hafter, watch_after]
  exact (hlog log).trans (hlog w.log).symm

theorem renew_afresh {o : Order} (h : o.afresh = true) : w.renew fresh o = w.reload fresh :=
  if_pos h

theorem renew_kept (o : Order) : w.renew fresh o.kept = (w, none) := rfl

theorem watch_cons_kept (fresh : Session) (w : Workbench) (o : Order) (os : List Order) :
    watch fresh w (o.kept :: os) =
      match w.submitWith o.text o.meanwhile with
      | (w₂, .error f) => [⟨w.session.state, .error f, w₂.session.state⟩]
      | (w₂, .ok turn) => ⟨w.session.state, .ok turn, w₂.session.state⟩ :: watch fresh w₂ os := by
  rw [watch, renew_kept, Order.kept_text, Order.kept_meanwhile]

/-- A replacement makes no difference unless the folder with the word for null is open. -/
theorem watch_cons_eq {o : Order} {os : List Order} (hw : Ready fresh w)
    (h : o.afresh = true → w.session.desk.selected ≠ some "null") :
    watch fresh w (o :: os) = watch fresh w (o.kept :: os) := by
  by_cases hafresh : o.afresh = true
  · obtain ⟨log, hreload⟩ := hw.reload
    rw [Session.recalled_eq_self (h hafresh)] at hreload
    rw [← watch_log fresh w log (o.kept :: os), watch_cons_kept, watch, renew_afresh hafresh, hreload]
  · obtain ⟨text, meanwhile, afresh⟩ := o
    obtain rfl : afresh = false := eq_false_of_ne_true hafresh
    rfl

theorem head_before_cons (fresh : Session) (w : Workbench) (o : Order) (os : List Order) :
    (watch fresh w (o :: os)).head?.map Sight.before = some (w.renew fresh o).1.session.state := by
  rw [watch]
  rcases w.renew fresh o with ⟨w₁, _ | f⟩
  · dsimp only
    rcases w₁.submitWith o.text o.meanwhile with ⟨w₂, f | turn⟩ <;> rfl
  · rfl

/-- What is seen before a command that comes after a replacement tells whether it shows. -/
theorem spares_of_watch_eq {o : Order} {os os' : List Order} (hw : Ready fresh w)
    (h : watch fresh w (o :: os) = watch fresh w (o.kept :: os')) (hafresh : o.afresh = true) :
    w.session.desk.selected ≠ some "null" := by
  obtain ⟨log, hreload⟩ := hw.reload
  have hbefore := congrArg (fun sights => sights.head?.map Sight.before) h
  rw [head_before_cons, head_before_cons, renew_afresh hafresh, hreload, renew_kept] at hbefore
  exact (Session.state_recalled_eq_self_iff _).mp (Option.some.inj hbefore)

theorem watch_eq_iff (hfresh : fresh.Unused) (hw : Ready fresh w) (os : List Order) :
    watch fresh w os = watch fresh w (os.map Order.kept) ↔ w.SparesNull os := by
  induction os generalizing w with
  | nil => exact ⟨fun _ => trivial, fun _ => rfl⟩
  | cons o os ih =>
    -- Once the first command has no replacement before it, only what follows can differ.
    have htail : watch fresh w (o.kept :: os) = watch fresh w (o.kept :: os.map Order.kept) ↔
        ((w.submitWith o.text o.meanwhile).2.isOk →
          SparesNull (w.submitWith o.text o.meanwhile).1 os) := by
      rw [watch_cons_kept, watch_cons_kept]
      rcases hsubmit : w.submitWith o.text o.meanwhile with ⟨w₂, f | turn⟩
      · exact ⟨fun _ hok => absurd hok Bool.false_ne_true, fun _ => rfl⟩
      · show _ :: watch fresh w₂ os = _ :: watch fresh w₂ (os.map Order.kept) ↔
          (true = true → w₂.SparesNull os)
        rw [← ih (submitWith_ready hfresh hw hsubmit), List.cons_inj_right]
        exact ⟨fun h _ => h, fun h => h rfl⟩
    constructor
    · intro h
      have hspares := spares_of_watch_eq hw h
      rw [List.map_cons, watch_cons_eq hw hspares] at h
      exact ⟨hspares, htail.mp h⟩
    · rintro ⟨hspares, h⟩
      rw [List.map_cons, watch_cons_eq hw hspares]
      exact htail.mpr h

/-- **A session replaced by a new one.** Wherever completed operations and replacements lead to, a
new session loaded from the drawer meets no fault and is in the same state, except that a folder
whose identifier is the word for null is no longer open. So a run shows the same with replacements
before some of its commands as without them exactly if none of these commands comes while that
folder is open. -/
theorem reload_transparent {settings : EngineSettings} {name : String} {w₀ : Workbench}
    (hstart : Session.start settings name = .ok w₀.session) :
    (∀ w, Reached w₀ w → ∃ w', w.reload w₀.session = (w', none) ∧
      w'.session.state = w.session.state.recalled ∧
      (w'.session.state = w.session.state ↔ w.session.desk.selected ≠ some "null")) ∧
    ∀ w, Reached w₀ w → ∀ os : List Order,
      watch w₀.session w os = watch w₀.session w (os.map Order.kept) ↔ w.SparesNull os := by
  have hfresh := Session.start_unused hstart
  refine ⟨fun w hw => ?_, fun w hw os => watch_eq_iff hfresh (hw.ready hfresh) os⟩
  obtain ⟨w', hreload, hstate⟩ := (hw.ready hfresh).reload_state
  refine ⟨w', hreload, hstate, ?_⟩
  rw [hstate]
  exact Session.state_recalled_eq_self_iff w.session

/-- A new session without a pause, over an empty drawer and with a clock that stands still. -/
def untouched : Workbench where
  session :=
    { name := "work", palette := Palette.builtIn, delay := .zero false
      desk :=
        { store := Store.seed
          history := .empty History.Limit.usual.val History.Limit.usual.property }
      messages := [Transcript.welcome], chatHeight := Panel.defaultHeight }
  drawer := {}
  sources := { clock := fun _ => some 1000, colorFrom := fun _ colors => colors.head? }

theorem start_untouched :
    Session.start { responseDelayMs := 0 } "work" = .ok untouched.session := rfl

theorem load_untouched : untouched.load = (untouched.load.1, none) := by
  have h : untouched.load.2 = none := by decide +kernel
  rw [← h]

/-- The session is replaced after a change to the tree and again after another folder was opened. -/
theorem reload_transparent_changed_tree :
    let os : List Order :=
      [⟨"move vacation.png to null", [], false⟩, ⟨"open images", ["undo"], true⟩, ⟨"undo", [], true⟩]
    Session.start { responseDelayMs := 0 } "work" = .ok untouched.session ∧
      Reached untouched untouched.load.1 ∧ untouched.load.1.SparesNull os ∧
      (∃ w', untouched.load.1.reload untouched.session = (w', none) ∧
        w'.session.state = untouched.load.1.session.state) ∧
      watch untouched.session untouched.load.1 os =
        watch untouched.session untouched.load.1 (os.map Order.kept) := by
  intro os
  have hloaded := Reached.loaded load_untouched
  have hspares : untouched.load.1.SparesNull os := by decide +kernel
  have hselected : untouched.load.1.session.desk.selected ≠ some "null" := by decide +kernel
  obtain ⟨hreload, hruns⟩ := reload_transparent start_untouched
  obtain ⟨w', hw', _, hsame⟩ := hreload _ hloaded
  exact ⟨start_untouched, hloaded, hspares, ⟨w', hw', hsame.mpr hselected⟩,
    (hruns _ hloaded os).mpr hspares⟩

/-- A move makes the folder and it is opened; a new session has no folder open, and a run that goes
on with one shows something else. -/
theorem null_folder_not_recalled :
    let os : List Order :=
      [⟨"move vacation.png to null", [], false⟩, ⟨"open null", [], false⟩, ⟨"list", [], true⟩]
    let w := ((untouched.load.1.submit "move vacation.png to null").1.submit "open null").1
    Session.start { responseDelayMs := 0 } "work" = .ok untouched.session ∧
      Reached untouched untouched.load.1 ∧ Reached untouched w ∧
      w.session.state.selected = some "null" ∧
      (∃ w', w.reload untouched.session = (w', none) ∧ w'.session.state.selected = none) ∧
      watch untouched.session untouched.load.1 os ≠
        watch untouched.session untouched.load.1 (os.map Order.kept) := by
  intro os w
  have hfresh := Session.start_unused start_untouched
  have hloaded := Reached.loaded load_untouched
  obtain ⟨hmove, hopen, hselected, hspares⟩ :
      (untouched.load.1.submit "move vacation.png to null").2.isOk ∧
      ((untouched.load.1.submit "move vacation.png to null").1.submit "open null").2.isOk ∧
      w.session.state.selected = some "null" ∧ ¬ untouched.load.1.SparesNull os := by
    decide +kernel
  have hw : Reached untouched w := (hloaded.submit hmove).submit hopen
  obtain ⟨w', hreload, hstate⟩ := (hw.ready hfresh).reload_state
  refine ⟨start_untouched, hloaded, hw, hselected, ⟨w', hreload, ?_⟩, fun h => ?_⟩
  · rw [hstate, SessionState.recalled_selected, hselected]
    rfl
  · exact hspares ((watch_eq_iff hfresh (hloaded.ready hfresh) os).mp h)

end FolderTalk.Workbench
