import FolderTalk.Proofs.Engine.Idle
import FolderTalk.Proofs.Session.Failing
import FolderTalk.Proofs.Session.Reset

/-!
# What an outcome says about the tree

An outcome says whether the command changed the tree. It says so of every command that was carried out
on the tree, and that is the case of two kinds of command that need not change anything: a folder may
be given the name that it has, and files may be moved to the folder that they are in.

* `Outcome.Truthful` : what an outcome says is what has become of the tree, idle commands apart;
* `submitWith_truthful` : outcomes of submitted texts are truthful.
-/

namespace FolderTalk

/-- The command gives a folder the name that it has, or moves files to the folder that they are in. -/
def Outcome.Idle (o : Outcome) (before : Store) : Prop :=
  ∃ intent, o.intent = some intent ∧ Engine.Idle before intent.action

/-- The outcome says that the tree has changed exactly if it has or the command was idle, and an idle
command changes nothing. -/
structure Outcome.Truthful (o : Outcome) (before after : Store) : Prop where
  mutated_iff : o.mutated = true ↔ after ≠ before ∨ o.Idle before
  unchanged : o.Idle before → after = before

namespace Workbench

variable {w w' w₁ : Workbench} {command : String} {o : Outcome}

/-- Commands are understood by the rules, if they are understood at all. -/
def ByRules (w : Workbench) : Prop :=
  ∀ command store intent, w.interpret command store = some intent →
    intent = Command.recognise command store

theorem perform_truthful {intent : Intent}
    (hgrounded : Command.Grounded w.session.desk.store intent.action)
    (h : w.perform command intent = (w', o))
    (hundo : intent.action = .undo → ¬ w.session.desk.Restores) (hreset : o.reset = false) :
    o.Truthful w.session.desk.store w'.session.desk.store := by
  have hmutated := Engine.execute_mutated_iff w.session.palette w.sources intent w.session.desk
    hgrounded hundo
  have hidle := Engine.execute_of_idle w.session.palette w.sources intent w.session.desk
  rcases hexecute : Engine.execute w.session.palette w.sources intent w.session.desk with
    ⟨effect, sources⟩
  rw [hexecute] at hmutated hidle
  rw [perform_eq command hexecute] at h
  obtain ⟨rfl, rfl⟩ := Prod.mk.inj h
  have hkept : effect.reset = false := hreset
  rw [if_neg (by rw [hkept]; exact Bool.false_ne_true)]
  have hintent : Outcome.Idle
      ⟨command, some intent, effect.message, effect.mutated, effect.reset, effect.desk.selected⟩
      w.session.desk.store ↔ Engine.Idle w.session.desk.store intent.action := by
    simp [Outcome.Idle]
  refine ⟨?_, fun h => (hidle (hintent.mp h)).2⟩
  rw [hintent]
  exact hmutated hkept

theorem run_truthful (hrules : w.ByRules) (h : w.run command = (w', o))
    (hundo : ∀ intent, o.intent = some intent → intent.action = .undo → ¬ w.session.desk.Restores)
    (hreset : o.reset = false) :
    o.Truthful w.session.desk.store w'.session.desk.store := by
  unfold run at h
  dsimp only at h
  cases hintent : w.interpret command w.session.desk.store with
  | none =>
    rw [hintent] at h
    obtain ⟨rfl, rfl⟩ := Prod.mk.inj h
    refine ⟨?_, fun ⟨_, hnone, _⟩ => nomatch hnone⟩
    simp [Outcome.Idle, report]
  | some intent =>
    rw [hintent] at h
    dsimp only at h
    have hgrounded : Command.Grounded w.session.desk.store intent.action := by
      rw [hrules _ _ _ hintent]
      exact Command.recognise_grounded _ _
    have hsome : o.intent = some intent := by rw [← (Prod.mk.inj h).2]
    exact perform_truthful (w := w.report _) hgrounded h (hundo intent hsome) hreset

/-- The outcome of a submission, if it has one. -/
def outcome? (w : Workbench) (text : String) (meanwhile : List String) : Option Outcome :=
  (w.submitWith text meanwhile).2.toOption.bind Turn.outcome

theorem outcome?_eq_some {meanwhile : List String} {text : String}
    (h : w.outcome? text meanwhile = some o) :
    ∃ turn, (w.submitWith text meanwhile).2 = .ok turn ∧ turn.outcome = some o := by
  unfold outcome? at h
  rcases hresult : (w.submitWith text meanwhile).2 with f | turn
  · rw [hresult] at h
    cases h
  · rw [hresult] at h
    exact ⟨turn, rfl, h⟩

/-- **Outcomes are truthful.** In any session, also one that has to be loaded first, the outcome of a
submitted text says that the tree has changed exactly if it has or the command was idle, and an idle
command changes nothing. This is so for all outcomes but those of a reset and of an undo that brings
back another tree. -/
theorem submitWith_truthful (w w₁ : Workbench) (text : String) (meanwhile : List String)
    (hrules : w.ByRules) (hload : w.loadIfNeeded = (w₁, none))
    (ho : w.outcome? text meanwhile = some o)
    (hundo : ∀ intent, o.intent = some intent → intent.action = .undo → ¬ w₁.session.desk.Restores)
    (hreset : o.reset = false) :
    o.Truthful w₁.session.desk.store (w.submitWith text meanwhile).1.session.desk.store := by
  obtain ⟨turn, hturn, ho⟩ := outcome?_eq_some ho
  have hcame := submitWith_came w text meanwhile
  generalize w.submitWith text meanwhile = r at hcame hturn
  cases hcame with
  | ignored log =>
    cases hturn
    cases ho
  | @processed w' result h =>
    have hmarked : (w.marked true).loadIfNeeded = (w₁.marked true, none) := by
      rw [loadIfNeeded_marked, hload]
    cases h with
    | notLoaded | notAsked => cases hturn
    | @ran v₁ w₂ w₃ _ outcome fault _ log hload' hask hrun hreply hend =>
      obtain rfl := (Prod.mk.inj (hmarked.symm.trans hload')).1
      cases hend with
      | failed => cases hturn
      | answered turn' hturn' =>
        cases hturn
        obtain rfl : outcome = o := Option.some.inj (hturn'.symm.trans ho)
        obtain ⟨hdesk₂, _, hinterpret₂⟩ := post_desk hask
        have hrules₂ : ByRules { w₂ with log := log } := by
          intro command store intent hintent
          refine hrules command store intent ?_
          rw [← (loadIfNeeded_settings hload).interpret]
          exact (congrFun (congrFun hinterpret₂ command) store).symm.trans hintent
        -- The command and the reply are added beside the desk.
        have hbefore : w₁.session.desk = w₂.session.desk := hdesk₂.symm
        have hafter : w'.session.desk = w₃.session.desk := (post_desk hreply).1
        show outcome.Truthful _ w'.session.desk.store
        rw [hafter, hbefore]
        exact run_truthful (w := { w₂ with log := log }) hrules₂ hrun (hbefore ▸ hundo) hreset

theorem untouched_byRules : untouched.ByRules := by
  rintro command store intent ⟨⟩
  rfl

theorem loadIfNeeded_untouched : ∃ w₁, untouched.loadIfNeeded = (w₁, none) ∧
    w₁.session.desk = untouched.session.desk := by
  refine ⟨untouched.load.1, ?_, by decide +kernel⟩
  rw [← show untouched.load.2 = none by decide +kernel]
  rfl

/-- A folder gets another name, in a new session and while another text comes in. -/
theorem submitWith_truthful_renamed :
    ∃ o, untouched.outcome? "rename images to pictures" ["undo"] = some o ∧ o.mutated = true ∧
      ¬ o.Idle untouched.session.desk.store := by
  obtain ⟨w₁, hload, hdesk⟩ := loadIfNeeded_untouched
  have hchanged : (untouched.submitWith "rename images to pictures" ["undo"]).1.session.desk.store ≠
      untouched.session.desk.store := by decide +kernel
  have hfacts : (untouched.outcome? "rename images to pictures" ["undo"]).map
      (fun o => (o.reset, o.intent.map Intent.action)) =
        some (false, some (.renameFolder "images" "Images" "Pictures")) := by decide +kernel
  obtain ⟨o, ho, hfacts⟩ := Option.map_eq_some_iff.mp hfacts
  obtain ⟨hreset, hintent⟩ := Prod.mk.inj hfacts
  have htruthful := submitWith_truthful untouched w₁ _ _ untouched_byRules hload ho
    (fun intent h hundo => by simp [h, hundo] at hintent) hreset
  rw [hdesk] at htruthful
  exact ⟨o, ho, htruthful.mutated_iff.mpr (.inl hchanged), fun h => hchanged (htruthful.unchanged h)⟩

/-- A folder is given the name that it has, and a file is moved to the folder that it is in: the
outcomes say that the tree has changed, and it has not. -/
theorem submitWith_truthful_idle :
    let moved := (untouched.submit "move vacation.png to images").1
    (untouched.outcome? "rename images to images" []).map (fun o => (o.mutated, o.reset)) =
        some (true, false) ∧
      (untouched.submitWith "rename images to images" []).1.session.desk.store =
        untouched.session.desk.store ∧
      (moved.outcome? "move vacation.png to images" []).map (fun o => (o.mutated, o.reset)) =
        some (true, false) ∧
      (moved.submitWith "move vacation.png to images" []).1.session.desk.store =
        moved.session.desk.store := by
  decide +kernel

end Workbench

end FolderTalk
