import FolderTalk.Proofs.Session.AnyDrawer
import FolderTalk.Proofs.Session.OpenFolder

/-!
# Two sessions in step

What two sessions answer to the same texts is compared stage by stage: if the stages of a command give
the same in both and keep the sessions related, so does the command.

* `Together` : two results are the same and leave related workbenches;
* `Lockstep` : a relation that every stage of a command keeps;
* `Lockstep.submitWith` : then submitting a text keeps it, and the answers are the same.
-/

namespace FolderTalk.Workbench

variable {v w w₁ : Workbench} {R : Workbench → Workbench → Prop} {command : String}

/-- The results are the same, and they leave related workbenches. -/
def Together {α : Type} (R : Workbench → Workbench → Prop) (r r' : Workbench × α) : Prop :=
  r.2 = r'.2 ∧ R r.1 r'.1

theorem Together.split {α : Type} {r r' : Workbench × α} (h : Together R r r') :
    ∃ v w result, r = (v, result) ∧ r' = (w, result) ∧ R v w :=
  ⟨r.1, r'.1, r.2, rfl, Prod.ext rfl h.1.symm, h.2⟩

theorem saveKeys_together
    (hkey : ∀ {v w}, R v w → ∀ key, Together R (v.saveKey key) (w.saveKey key)) (h : R v w)
    (keys : List StateKey) : Together R (v.saveKeys keys) (w.saveKeys keys) := by
  induction keys generalizing v w with
  | nil => exact ⟨rfl, h⟩
  | cons key keys ih =>
    obtain ⟨v', w', fault, hv, hw, hR⟩ := (hkey h key).split
    rw [saveKeys, saveKeys, hv, hw]
    cases fault with
    | none => exact ih hR
    | some f => exact ⟨rfl, hR⟩

/-- Every stage of a command gives the same in related workbenches, and leaves them related. The log
makes no difference. -/
structure Lockstep (R : Workbench → Workbench → Prop) : Prop where
  busy : ∀ {v w}, R v w → v.session.busy = w.session.busy
  delay : ∀ {v w}, R v w → v.session.delay = w.session.delay
  logged : ∀ {v w}, R v w → ∀ log log', R { v with log := log } { w with log := log' }
  marked : ∀ {v w}, R v w → ∀ busy,
    R (v.change ({ · with busy := busy })) (w.change ({ · with busy := busy }))
  loadIfNeeded : ∀ {v w}, R v w → Together R v.loadIfNeeded w.loadIfNeeded
  post : ∀ {v w}, R v w → v.session.loaded = true → ∀ text sender,
    Together R (v.post text sender) (w.post text sender)
  run : ∀ {v w}, R v w → ∀ command, Together R (v.run command) (w.run command)

theorem loaded_of_loadIfNeeded (h : w.loadIfNeeded = (w₁, none)) : w₁.session.loaded = true := by
  unfold loadIfNeeded at h
  split at h
  · next hloaded =>
    cases h
    exact hloaded
  · obtain ⟨stored, log, rfl⟩ := load_frame h
    rfl

namespace Lockstep

theorem process (hstep : Lockstep R) (h : R v w) (command : String) (meanwhile : List String) :
    Together R (v.process command meanwhile) (w.process command meanwhile) := by
  unfold Workbench.process
  obtain ⟨v₁, w₁, fault, hv, hw, h₁⟩ := (hstep.loadIfNeeded h).split
  rw [hv, hw]
  cases fault with
  | some f => exact ⟨rfl, h₁⟩
  | none =>
    dsimp only
    have hloaded := loaded_of_loadIfNeeded hv
    obtain ⟨v₂, w₂, fault, hv, hw, h₂⟩ := (hstep.post h₁ hloaded command .user).split
    rw [hv, hw]
    cases fault with
    | some f => exact ⟨rfl, h₂⟩
    | none =>
      dsimp only
      have hloaded₂ := (post_desk hv).2.1.trans hloaded
      obtain ⟨log, hlog⟩ := foldl_turnAway_eq v₂ meanwhile
      obtain ⟨log', hlog'⟩ := foldl_turnAway_eq w₂ meanwhile
      rw [hlog, hlog', hstep.busy h₂]
      obtain ⟨v₃, w₃, outcome, hv, hw, h₃⟩ := (hstep.run (hstep.logged h₂ log log') command).split
      rw [hv, hw]
      dsimp only
      have hloaded₃ := (run_frame hv).1.trans hloaded₂
      obtain ⟨v₄, w₄, fault, hv, hw, h₄⟩ := (hstep.post h₃ hloaded₃ outcome.message .ai).split
      rw [hv, hw]
      cases fault with
      | some f => exact ⟨rfl, h₄⟩
      | none => exact ⟨by dsimp only; rw [hstep.delay h₄], h₄⟩

/-- **Related workbenches** answer a text alike, and stay related. -/
theorem submitWith (hstep : Lockstep R) (h : R v w) (text : String) (meanwhile : List String) :
    Together R (v.submitWith text meanwhile) (w.submitWith text meanwhile) := by
  unfold Workbench.submitWith
  dsimp only
  rw [hstep.busy h]
  split
  · exact ⟨rfl, h⟩
  · split
    · obtain ⟨log, hlog⟩ := v.turnAway_eq text
      obtain ⟨log', hlog'⟩ := w.turnAway_eq text
      rw [hlog, hlog']
      exact ⟨rfl, hstep.logged h log log'⟩
    · obtain ⟨hresult, hrelated⟩ := hstep.process (hstep.marked h true) (Text.strip text) meanwhile
      exact ⟨hresult, hstep.marked hrelated false⟩

end Lockstep

end FolderTalk.Workbench
