import FolderTalk.Proofs.Engine.Frame
import FolderTalk.Proofs.Session.OpenFolder

/-!
# What stays in the tree of a session

* `submitAll_all` : what every intent keeps in the tree and in every recorded tree, submitted texts
  keep;
* `submitAll_contents` : intents leave all records alone that they are not about, so the files of a
  session are always those that it began with, wherever they have been put.
-/

namespace FolderTalk.Workbench

variable {w : Workbench} {P : Store → Prop}

theorem submitAll_cons (w : Workbench) (text : String) (texts : List String) :
    submitAll (text :: texts) w = submitAll texts (w.submit text).1 := by
  rw [submitAll, List.foldl_cons, submitAll]

/-- What every intent keeps, submitted texts keep. -/
theorem submitAll_all
    (hstep : ∀ palette p intent, p.1.All P → (Engine.step palette p intent).1.All P)
    (hprimed : w.Primed) (h : w.session.desk.All P) (texts : List String) :
    (submitAll texts w).session.desk.All P := by
  induction texts generalizing w with
  | nil => exact h
  | cons text texts ih =>
    obtain ⟨htreated, hprimed'⟩ := submit_treated hprimed text
    rw [submitAll_cons]
    refine ih hprimed' ?_
    rcases htreated with hsame | ⟨palette, src, hdesk⟩
    · rw [hsame]
      exact h
    · rw [hdesk]
      exact hstep palette (w.session.desk, src) _ h

/-- **No command loses, duplicates or alters a record that it is not about.** An intent other than
undo and reset, whatever it refers to, leaves all files in their order with nothing but their places
changed, and all folders in their order, except those that it deletes and the name that it gives to
one, with at most one new folder after them. So after any texts submitted to a new session, the
files of the tree, and of every tree that can be restored, are those of the initial tree, in their
order and with nothing but their places changed. -/
theorem submitAll_contents (palette : List String) (src : Sources) (intent : Intent) (desk : Desk)
    (settings : EngineSettings) (name : String) (session : Session) (sources : Sources)
    (texts : List String) :
    (intent.action ≠ .undo → intent.action ≠ .reset →
      Engine.Framed intent.action desk.store
        (Engine.execute palette src intent desk).1.desk.store) ∧
    (Session.start settings name = .ok session →
      (submitAll texts { session := session, drawer := {}, sources := sources }).session.desk.All
        fun s => s.unplacedFiles = Store.seedFiles) := by
  refine ⟨fun hundo hreset => Engine.execute_framed palette src desk hundo hreset, fun hstart => ?_⟩
  have hsteady := start_steady hstart sources
  refine submitAll_all Engine.step_unplacedFiles hsteady.primed ?_ texts
  obtain ⟨delay, rfl⟩ := Session.start_eq hstart
  exact Desk.all_seed (by decide) _ _

/-- A move to a new folder and an undo of it, in a session; and an intent that renames a folder that
is not there. -/
theorem submitAll_contents_moved :
    let texts := ["delete images", "undo", "move vacation.png to trips"]
    let intent : Intent := ⟨.renameFolder "gone" "Gone" "Here", ""⟩
    intent.action ≠ .undo ∧ intent.action ≠ .reset ∧
      Engine.Framed intent.action Store.seed
        (Engine.execute [] untouched.sources intent untouched.session.desk).1.desk.store ∧
      Session.start { responseDelayMs := 0 } "work" = .ok untouched.session ∧
      (submitAll texts untouched).session.desk.store.unplacedFiles = Store.seedFiles ∧
      (submitAll texts untouched).session.desk.store.files ≠ Store.seedFiles := by
  intro texts intent
  have hnew : { session := untouched.session, drawer := {}, sources := untouched.sources } =
    untouched := rfl
  obtain ⟨hframed, hstarted⟩ := submitAll_contents [] untouched.sources intent
    untouched.session.desk { responseDelayMs := 0 } "work" untouched.session untouched.sources texts
  have hall := hstarted start_untouched
  rw [hnew] at hall
  exact ⟨nofun, nofun, hframed nofun nofun, start_untouched, hall.1, by decide +kernel⟩

end FolderTalk.Workbench
