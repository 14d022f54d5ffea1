import FolderTalk.Proofs.Engine.OpenFolder
import FolderTalk.Proofs.Session.Reload

/-!
# The open folder of a session

* `Primed` : a session that need not be loaded, because it has been or because nothing is stored;
* `submit_treated` : what a submitted text does to its desk is what its intent does, or nothing;
* `submitAll_selection` : the open folder stays a folder of the tree, and what is shown for none is
  the unorganized files, as long as no command strands it.
-/

namespace FolderTalk

/-! ## What is shown -/

/-- If no folder that is not there is open, what is shown without a folder is what belongs to none. -/
theorem Session.view_of_selectionLive {s : Session} (h : s.desk.SelectionLive)
    (hnone : s.view.folder = none) :
    s.view.subfolders = [] ∧ s.view.files = s.desk.store.unorganizedFiles := by
  rcases h with hselected | ⟨f, hf, hselected⟩
  · unfold Session.view
    rw [hselected]
    exact ⟨rfl, rfl⟩
  · unfold Session.view at hnone
    rw [hselected] at hnone
    have habsent := List.find?_eq_none.mp hnone f hf
    simp at habsent

namespace Workbench

variable {w w' : Workbench} {command text : String}

/-! ## What a submitted text does to the desk -/

/-- Commands are understood, and the session has been loaded or is new and has nothing to load. -/
structure Primed (w : Workbench) : Prop where
  interpret : ∀ text store, w.interpret text store = some (Command.recognise text store)
  ready : w.session.loaded = true ∨
    w.session.stored = (fun _ => none) ∧ w.drawer = {} ∧
      ∃ limit : History.Limit, w.session.desk = ⟨Store.seed, .empty limit.val limit.property, none⟩

theorem faultless_empty : (Readings.ofDrawer {}).Faultless := by
  simp [Readings.Faultless, Readings.traces, Trace.of, Reading.fault?, Readings.ofDrawer, Reading.of,
    Drawer.get?]

/-- What an empty drawer says is the initial state. -/
theorem taking_empty_desk {s : Session} {limit : History.Limit}
    (h : s.desk = ⟨Store.seed, .empty limit.val limit.property, none⟩) :
    (s.taking (.ofDrawer {})).desk = s.desk := by
  obtain ⟨name, palette, delay, desk, messages, chatHeight, loaded, busy, stored⟩ := s
  obtain rfl : desk = _ := h
  show Desk.mk Store.seed (.ofSnapshots limit.val limit.property []) none = _
  rw [History.ofSnapshots_nil]

/-- Loading an empty drawer leaves the desk as it is. -/
theorem Primed.loadIfNeeded (h : w.Primed) :
    ∃ w', w.loadIfNeeded = (w', none) ∧ w'.session.desk = w.session.desk ∧
      w'.session.loaded = true ∧ w'.interpret = w.interpret := by
  unfold Workbench.loadIfNeeded
  by_cases hloaded : w.session.loaded = true
  · rw [if_pos hloaded]
    exact ⟨w, rfl, rfl, hloaded, rfl⟩
  · rw [if_neg hloaded]
    obtain ⟨hstored, hdrawer, limit, hdesk⟩ := h.ready.resolve_left hloaded
    obtain ⟨log, hload⟩ := load_of_faultless hstored (by rw [hdrawer]; exact faultless_empty)
    refine ⟨_, hload, ?_, rfl, rfl⟩
    rw [hdrawer]
    exact taking_empty_desk hdesk

theorem post_frame (w : Workbench) (text : String) (sender : Sender) :
    ∃ stored drawer, (w.post text sender).1 =
      (w.change (·.append text sender)).refiled stored drawer :=
  saveKeys_frame _ _

theorem post_desk {sender : Sender} {fault : Option Fault} (h : w.post text sender = (w', fault)) :
    w'.session.desk = w.session.desk ∧ w'.session.loaded = w.session.loaded ∧
      w'.interpret = w.interpret := by
  obtain ⟨stored, drawer, hframe⟩ := post_frame w text sender
  rw [h] at hframe
  rw [show w' = _ from hframe]
  exact ⟨rfl, rfl, rfl⟩

/-- What was done to a desk is what the intent does, or nothing. -/
def Treated (desk : Desk) (intent : Intent) (desk' : Desk) : Prop :=
  desk' = desk ∨ ∃ palette src, desk' = (Engine.step palette (desk, src) intent).1

theorem run_treated {outcome : Outcome} {intent : Intent}
    (hintent : w.interpret command w.session.desk.store = some intent)
    (h : w.run command = (w', outcome)) : Treated w.session.desk intent w'.session.desk := by
  refine .inr ⟨w.session.palette, w.sources, ?_⟩
  unfold run at h
  rw [hintent] at h
  dsimp only at h
  rcases hexecute : Engine.execute w.session.palette w.sources intent w.session.desk with
    ⟨effect, sources⟩
  rw [perform_eq (w := w.report _) command hexecute] at h
  rw [← (Prod.mk.inj h).1, Engine.step, hexecute]
  split <;> rfl

theorem run_frame {outcome : Outcome} (h : w.run command = (w', outcome)) :
    w'.session.loaded = w.session.loaded ∧ w'.interpret = w.interpret := by
  obtain ⟨desk, sources, log, _, _, hcame⟩ := run_came w command
  rw [h] at hcame
  rcases hcame with ⟨_, hcame⟩ | ⟨_, hcame⟩ <;> rw [show w' = _ from hcame] <;> exact ⟨rfl, rfl⟩

theorem Processed.treated {result : Except Fault Turn} (h : Processed w command (w', result))
    (hw : w.Primed) :
    Treated w.session.desk (Command.recognise command w.session.desk.store) w'.session.desk ∧
      w'.session.loaded = true ∧ w'.interpret = w.interpret := by
  obtain ⟨w₁, hload, hdesk, hloaded, hinterpret⟩ := hw.loadIfNeeded
  cases h with
  | notLoaded h => rw [hload] at h; cases h
  | notAsked hload' h =>
    rw [hload] at hload'
    cases hload'
    obtain ⟨hdesk', hloaded', hinterpret'⟩ := post_desk h
    exact ⟨.inl (hdesk'.trans hdesk), hloaded'.trans hloaded, hinterpret'.trans hinterpret⟩
  | @ran _ w₂ _ _ _ _ _ log hload' hask hrun hreply _ =>
    rw [hload] at hload'
    cases hload'
    obtain ⟨hdesk₂, hloaded₂, hinterpret₂⟩ := post_desk hask
    obtain ⟨hloaded₃, hinterpret₃⟩ := run_frame hrun
    obtain ⟨hdesk', hloaded', hinterpret'⟩ := post_desk hreply
    -- Both posts leave the desk alone, so what is done to it is what the run does.
    have hbefore : w₂.session.desk = w.session.desk := hdesk₂.trans hdesk
    have hunderstood : w₂.interpret = w.interpret := hinterpret₂.trans hinterpret
    have hintent : w₂.interpret command w₂.session.desk.store =
        some (Command.recognise command w₂.session.desk.store) := by
      rw [hunderstood, hw.interpret]
    have htreated := run_treated (w := { w₂ with log := log }) hintent hrun
    rw [hdesk', ← hbefore]
    refine ⟨htreated, ?_, ?_⟩
    · rw [hloaded', hloaded₃]
      exact hloaded₂.trans hloaded
    · rw [hinterpret', hinterpret₃]
      exact hunderstood

/-- **A submitted text** does to the desk what its intent does, or nothing. -/
theorem submit_treated (hw : w.Primed) (text : String) :
    Treated w.session.desk (Command.recognise (Text.strip text) w.session.desk.store)
      (w.submit text).1.session.desk ∧ (w.submit text).1.Primed := by
  unfold submit
  have hcame := submitWith_came w text []
  generalize w.submitWith text [] = r at hcame
  cases hcame with
  | ignored log => exact ⟨.inl rfl, hw.interpret, hw.ready⟩
  | processed h =>
    obtain ⟨htreated, hloaded, hinterpret⟩ := h.treated ⟨hw.interpret, hw.ready⟩
    refine ⟨htreated, fun text store => ?_, .inl hloaded⟩
    show Workbench.interpret _ text store = _
    exact (congrFun (congrFun hinterpret text) store).trans (hw.interpret text store)

/-! ## Runs of submitted texts -/

/-- The workbench after the texts have been submitted, one after another. -/
def submitAll (texts : List String) (w : Workbench) : Workbench :=
  texts.foldl (fun w text => (w.submit text).1) w

/-- The submitted command is carried out, and takes the open folder out of the tree and leaves it
open. -/
structure Strands (w : Workbench) (text : String) : Prop where
  carriedOut : (w.submit text).1.session.desk ≠ w.session.desk
  strands : Engine.Strands w.session.desk
    (Command.recognise (Text.strip text) w.session.desk.store).action

/-- A session whose open folder is a folder of the tree. -/
structure Steady (w : Workbench) : Prop where
  primed : w.Primed
  live : w.session.desk.SelectionLive
  distinct : w.session.desk.All Store.DistinctIds

theorem treated_distinctIds {desk desk' : Desk} {intent : Intent} (h : Treated desk intent desk')
    (hdistinct : desk.All Store.DistinctIds) : desk'.All Store.DistinctIds := by
  rcases h with rfl | ⟨palette, src, rfl⟩
  · exact hdistinct
  · exact Engine.step_all Store.seed_distinctIds Engine.change_distinctIds palette (desk, src) intent
      hdistinct

theorem Steady.submit (hw : w.Steady) (hno : ¬ w.Strands text) : (w.submit text).1.Steady := by
  obtain ⟨htreated, hprimed⟩ := submit_treated hw.primed text
  refine ⟨hprimed, ?_, treated_distinctIds htreated hw.distinct⟩
  by_cases hsame : (w.submit text).1.session.desk = w.session.desk
  · rw [hsame]
    exact hw.live
  · obtain ⟨palette, src, hdesk⟩ := htreated.resolve_left hsame
    rw [hdesk]
    exact (Engine.step_selectionLive hw.distinct.1 hw.live (Command.recognise_grounded _ _)).mpr
      fun hstrands => hno ⟨hsame, hstrands⟩

theorem Steady.not_selectionLive (hw : w.Steady) (h : w.Strands text) :
    ¬ (w.submit text).1.session.desk.SelectionLive := by
  obtain ⟨palette, src, hdesk⟩ := (submit_treated hw.primed text).1.resolve_left h.carriedOut
  rw [hdesk]
  intro hlive
  exact (Engine.step_selectionLive hw.distinct.1 hw.live (Command.recognise_grounded _ _)).mp hlive
    h.strands

theorem start_steady {settings : EngineSettings} {name : String} {session : Session}
    (h : Session.start settings name = .ok session) (sources : Sources) :
    Steady { session := session, drawer := {}, sources := sources } := by
  obtain ⟨delay, rfl⟩ := Session.start_eq h
  exact ⟨⟨fun _ _ => rfl, .inr ⟨rfl, rfl, settings.historyLimit, rfl⟩⟩, .inl rfl,
    Desk.all_seed Store.seed_distinctIds _ _⟩

/-- **The open folder of a session** is one of the tree after every submitted text, and what is shown
without a folder is the unorganized files, exactly as long as no command is carried out that deletes
the open folder's parent or brings back a tree without the open folder. -/
theorem submitAll_selection {settings : EngineSettings} {name : String} {session : Session}
    (hstart : Session.start settings name = .ok session) (sources : Sources) (texts : List String) :
    let w₀ : Workbench := { session := session, drawer := {}, sources := sources }
    (∀ before, before <+: texts →
      let s := (submitAll before w₀).session
      s.desk.SelectionLive ∧ (s.view.folder = none →
        s.view.subfolders = [] ∧ s.view.files = s.desk.store.unorganizedFiles)) ↔
    ∀ before text, before ++ [text] <+: texts → ¬ (submitAll before w₀).Strands text :=
  forall_prefix_iff (f := fun w text => (w.submit text).1)
    (Q := fun w => w.session.desk.SelectionLive ∧ (w.session.view.folder = none →
      w.session.view.subfolders = [] ∧
        w.session.view.files = w.session.desk.store.unorganizedFiles))
    (fun _ hw => ⟨hw.live, Session.view_of_selectionLive hw.live⟩) (fun _ _ hw => hw.submit)
    (fun _ _ hw hstrands hshown => hw.not_selectionLive hstrands hshown.1) texts
    (start_steady hstart sources)

/-- Deleting the open folder closes it, and no command of this run strands it. -/
theorem submitAll_selection_delete :
    let texts : List String := ["open media", "delete media", "undo"]
    Session.start { responseDelayMs := 0 } "work" = .ok untouched.session ∧
      ∀ before text, before ++ [text] <+: texts → ¬ (submitAll before untouched).Strands text := by
  intro texts
  have hlive : ∀ before ∈ texts.inits,
      let s := (submitAll before untouched).session
      s.desk.SelectionLive ∧ (s.view.folder = none →
        s.view.subfolders = [] ∧ s.view.files = s.desk.store.unorganizedFiles) := by
    decide +kernel
  refine ⟨start_untouched, ?_⟩
  exact (submitAll_selection start_untouched untouched.sources texts).mp
    fun before hbefore => hlive before ((List.mem_inits before texts).mpr hbefore)

/-- The open folder goes with its parent, or with the undoing of its creation: it is still open, and
what is shown, without a folder, is not the unorganized files. -/
theorem submitAll_stranded :
    let deleted := (submitAll ["create folder photos inside media", "open photos", "delete media"]
      untouched).session
    let undone := (submitAll ["create folder photos", "open photos", "undo"] untouched).session
    Session.start { responseDelayMs := 0 } "work" = .ok untouched.session ∧
      (¬ deleted.desk.SelectionLive ∧ deleted.view.folder = none ∧ deleted.view.files = [] ∧
        deleted.desk.store.unorganizedFiles = Store.seedFiles) ∧
      (¬ undone.desk.SelectionLive ∧ undone.view.folder = none ∧ undone.view.files = [] ∧
        undone.desk.store.unorganizedFiles = Store.seedFiles) := by
  intro deleted undone
  refine ⟨start_untouched, ?_⟩
  decide +kernel

end Workbench

end FolderTalk
