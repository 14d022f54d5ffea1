import FolderTalk.Session.Submit

/-!
# What a submitted text can come to

* `Processed` : everything that processing a command can come to, one case for each place where it
  can end (`process_came`);
* `Submitted` : everything that submitting a text can come to (`submitWith_came`).
-/

namespace FolderTalk.Workbench

theorem turnAway_eq (w : Workbench) (text : String) :
    ∃ log, w.turnAway text = { w with log := log } := by
  unfold turnAway
  dsimp only
  split
  · exact ⟨w.log, rfl⟩
  · exact ⟨_, rfl⟩

theorem foldl_turnAway_eq (w : Workbench) (texts : List String) :
    ∃ log, texts.foldl turnAway w = { w with log := log } := by
  induction texts generalizing w with
  | nil => exact ⟨w.log, rfl⟩
  | cons text texts ih =>
    obtain ⟨log, hlog⟩ := w.turnAway_eq text
    rw [List.foldl_cons, hlog]
    exact ih _

/-- The answer after the reply has been saved, or has not been because of a fault. -/
inductive Ended (outcome : Outcome) : Option Fault → Except Fault Turn → Prop
  | failed (f : Fault) : Ended outcome (some f) (.error f)
  | answered (turn : Turn) (h : turn.outcome = some outcome) : Ended outcome none (.ok turn)

/-- Everything that processing a command can come to. The log has changed by what came in during the
pause. -/
inductive Processed (w : Workbench) (command : String) : Workbench × Except Fault Turn → Prop
  | notLoaded {w' : Workbench} {f : Fault} (h : w.loadIfNeeded = (w', some f)) :
      Processed w command (w', .error f)
  | notAsked {w₁ w' : Workbench} {f : Fault} (hload : w.loadIfNeeded = (w₁, none))
      (h : w₁.post command .user = (w', some f)) : Processed w command (w', .error f)
  | ran {w₁ w₂ w₃ w' : Workbench} {outcome : Outcome} {fault : Option Fault}
      {result : Except Fault Turn} (log : List Event) (hload : w.loadIfNeeded = (w₁, none))
      (hask : w₁.post command .user = (w₂, none))
      (hrun : { w₂ with log := log }.run command = (w₃, outcome))
      (hreply : w₃.post outcome.message .ai = (w', fault)) (hend : Ended outcome fault result) :
      Processed w command (w', result)

theorem process_came (w : Workbench) (command : String) (meanwhile : List String) :
    Processed w command (w.process command meanwhile) := by
  unfold process
  rcases hload : w.loadIfNeeded with ⟨w₁, _ | f⟩
  · dsimp only
    rcases hask : w₁.post command .user with ⟨w₂, _ | f⟩
    · obtain ⟨log, hlog⟩ := foldl_turnAway_eq w₂ meanwhile
      dsimp only
      rw [hlog]
      rcases hrun : ({ w₂ with log := log } : Workbench).run command with ⟨w₃, outcome⟩
      dsimp only
      rcases hreply : w₃.post outcome.message .ai with ⟨w', _ | f⟩
      · exact .ran log hload hask hrun hreply (.answered _ rfl)
      · exact .ran log hload hask hrun hreply (.failed f)
    · exact .notAsked hload hask
  · exact .notLoaded hload

/-- Everything that submitting a text can come to. -/
inductive Submitted (w : Workbench) (text : String) : Workbench × Except Fault Turn → Prop
  | ignored (log : List Event) : Submitted w text ({ w with log := log }, .ok { outcome := none })
  | processed {w' : Workbench} {result : Except Fault Turn}
      (h : Processed (w.change ({ · with busy := true })) (Text.strip text) (w', result)) :
      Submitted w text (w'.change ({ · with busy := false }), result)

theorem submitWith_came (w : Workbench) (text : String) (meanwhile : List String) :
    Submitted w text (w.submitWith text meanwhile) := by
  unfold submitWith
  dsimp only
  split
  · exact .ignored w.log
  · split
    · obtain ⟨log, hlog⟩ := w.turnAway_eq text
      rw [hlog]
      exact .ignored log
    · exact .processed (process_came _ _ meanwhile)

end FolderTalk.Workbench
