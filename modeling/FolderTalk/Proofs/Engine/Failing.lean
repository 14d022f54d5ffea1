import FolderTalk.Proofs.Engine.Changed

/-!
# All of an intent or nothing

A change may draw a clock reading for the identifier of a new folder and a choice for its colour, in
the midst of what it does. If one of them fails, or the stamps run out of texts, then nothing has been
done, though the store had been recorded and an identifier may have been found.

* `Action.stampBase?`, `Action.createsFolder` : what an action draws;
* `Fails` : something that the action draws is not given;
* `Completed` : everything that an intent is to do has been done;
* `execute_whole` : executing an intent leaves the desk as it was if the intent fails, and completes
  the intent otherwise.
-/

namespace FolderTalk

/-- A folder is created by the action. -/
def Action.createsFolder (a : Action) : Bool := a.creation?.isSome || a.move?.any (·.create)

/-- The base of the stamped identifier that a folder is created under, if the action creates one under
such an identifier. -/
def Action.stampBase? (store : Store) (a : Action) : Option String :=
  match a.creation? with
  | some (name, parent) => some (Engine.idBase name parent)
  | none =>
    (a.move?.filter fun m => m.create && store.folderIds.contains m.target.id).map (·.target.id)

namespace Engine

/-- Something that the action draws is not given. -/
def Fails (palette : List String) (src : Sources) (store : Store) (action : Action) : Prop :=
  (∃ base ∈ action.stampBase? store, uniqueId? src store base = none) ∨
    (action.createsFolder ∧ src.color? palette = none)

instance (palette : List String) (src : Sources) (store : Store) (action : Action) :
    Decidable (Fails palette src store action) :=
  inferInstanceAs (Decidable ((∃ base ∈ _, _) ∨ (_ ∧ _)))

/-- The effect is everything that the intent asks for. -/
inductive Completed (src : Sources) (intent : Intent) (desk : Desk) : Effect → Prop
  | answered (h : intent.action = .info ∨ intent.action = .list) :
      Completed src intent desk { desk := desk, message := intent.summary }
  | opened (id : String) (h : intent.action = .openFolder id) :
      Completed src intent desk
        { desk := { desk with selected := some id }, message := intent.summary }
  | nothingRecorded (h : intent.action = .undo) (hs : desk.history.snapshots = []) :
      Completed src intent desk { desk := desk, message := nothingToUndo }
  | restored (older : List Store) (store : Store) (h : intent.action = .undo)
      (hs : desk.history.snapshots = older ++ [store]) :
      Completed src intent desk
        { desk := { desk with store := store, history := { desk.history with snapshots := older } }
          message := undone }
  | afresh (h : intent.action = .reset) : Completed src intent desk (reset desk)
  | changed (store : Store) (h : intent.action.changesTree)
      (hchanged : Changed src desk.store intent.action store) :
      Completed src intent desk
        { desk :=
            { store := store
              history := desk.history.push desk.store
              selected := selectionAfter intent.action desk.selected }
          message := replyTo intent desk.store
          mutated := true }

variable {palette : List String} {src : Sources} {store : Store} {action : Action}

/-! ## When a change is not made -/

theorem addFolder_eq_none_iff {id name : String} {parent : Option String} :
    (addFolder palette src store id name parent).1 = none ↔ src.color? palette = none := by
  simp [addFolder]

theorem createFolder_eq_none_iff {name : String} {parent : Option String} :
    (createFolder palette src store name parent).1 = none ↔
      uniqueId? src store (idBase name parent) = none ∨ src.color? palette = none := by
  unfold createFolder
  cases uniqueId? src store (idBase name parent) with
  | none => simp
  | some id =>
    simp only [addFolder_eq_none_iff, reduceCtorEq, false_or]
    rfl

theorem ensureTarget_eq_none_iff {target : Destination} {create : Bool} :
    (ensureTarget palette src store target create).1 = none ↔
      create = true ∧ (target.id ∈ store.folderIds ∧ uniqueId? src store target.id = none ∨
        src.color? palette = none) := by
  unfold ensureTarget
  cases create with
  | false => simp
  | true =>
    rw [if_neg (by decide)]
    by_cases htaken : target.id ∈ store.folderIds
    · rw [if_pos (List.contains_iff_mem.mpr htaken)]
      cases uniqueId? src store target.id with
      | none => simp [htaken]
      | some id =>
        simp only [Option.map_eq_none_iff, addFolder_eq_none_iff, true_and, reduceCtorEq, and_false,
          false_or]
        rfl
    · rw [if_neg (by rwa [List.contains_iff_mem])]
      simp only [Option.map_eq_none_iff, addFolder_eq_none_iff, htaken, true_and, false_and,
        false_or]

/-- An action that creates a folder for its own sake draws an identifier and a choice. -/
theorem fails_of_creation {name : String} {parent : Option String}
    (h : action.creation? = some (name, parent)) :
    Fails palette src store action ↔
      uniqueId? src store (idBase name parent) = none ∨ src.color? palette = none := by
  simp [Fails, Action.stampBase?, Action.createsFolder, h]

/-- A move draws something only if it creates its target. -/
theorem fails_of_move {m : Move} (hcreation : action.creation? = none) (h : action.move? = some m) :
    Fails palette src store action ↔
      m.create = true ∧ (m.target.id ∈ store.folderIds ∧ uniqueId? src store m.target.id = none ∨
        src.color? palette = none) := by
  have hbase : (∃ base ∈ action.stampBase? store, uniqueId? src store base = none) ↔
      (m.create = true ∧ m.target.id ∈ store.folderIds) ∧ uniqueId? src store m.target.id = none := by
    simp [Action.stampBase?, hcreation, h, Option.filter_some, and_assoc]
  simp only [Fails, hbase, Action.createsFolder, hcreation, h, Option.isSome_none, Bool.false_or,
    Option.any_some]
  tauto

/-- **A change is not made** exactly if something that it draws is not given. -/
theorem change_eq_none_iff :
    (change palette src store action).1 = none ↔ Fails palette src store action := by
  cases action with
  | createSimple name => exact createFolder_eq_none_iff.trans (fails_of_creation rfl).symm
  | createNested name parentId _ =>
    exact createFolder_eq_none_iff.trans (fails_of_creation rfl).symm
  | moveFile fileName target create =>
    rw [fails_of_move rfl rfl, change]
    exact Option.map_eq_none_iff.trans ensureTarget_eq_none_iff
  | moveByExtension _ target create fileNames =>
    rw [fails_of_move rfl rfl, change]
    exact Option.map_eq_none_iff.trans ensureTarget_eq_none_iff
  | renameFolder | deleteFolder | undo | reset | info | list | openFolder =>
    simp [change, Fails, Action.stampBase?, Action.createsFolder, Action.creation?, Action.move?]

/-- Only an action that changes the tree draws anything. -/
theorem changesTree_of_fails (h : Fails palette src store action) : action.changesTree := by
  cases action with
  | undo | reset | info | list | openFolder =>
    simp [Fails, Action.stampBase?, Action.createsFolder, Action.creation?, Action.move?] at h
  | _ => rfl

/-! ## Executing an intent -/

/-- **An intent is executed as a whole.** If something that it draws is not given, then tree,
history and open folder are the given ones and the reply is that for a failure; otherwise everything
that the intent asks for is done. -/
theorem execute_whole (palette : List String) (src : Sources) (intent : Intent) (desk : Desk) :
    (Fails palette src desk.store intent.action →
      (execute palette src intent desk).1 = { desk := desk, message := failed }) ∧
    (¬ Fails palette src desk.store intent.action →
      Completed src intent desk (execute palette src intent desk).1) := by
  have hcame := execute_came palette src intent desk
  generalize execute palette src intent desk = r at hcame
  constructor
  · intro hfails
    have htree := changesTree_of_fails hfails
    have hnone := change_eq_none_iff.mpr hfails
    cases hcame with
    | failed left _ _ => rfl
    | applied store left _ hc => rw [hc] at hnone; cases hnone
    | answered h => rcases h with h | h <;> rw [h] at htree <;> cases htree
    | opened _ h => rw [h] at htree; cases htree
    | nothingRecorded h _ => rw [h] at htree; cases htree
    | restored _ _ h _ => rw [h] at htree; cases htree
    | afresh h => rw [h] at htree; cases htree
  · intro hno
    cases hcame with
    | failed left _ hc => exact absurd (change_eq_none_iff.mp (congrArg Prod.fst hc)) hno
    | applied store left h hc => exact .changed store h (change_came hc)
    | answered h => exact .answered h
    | opened id h => exact .opened id h
    | nothingRecorded h hs => exact .nothingRecorded h hs
    | restored older store h hs => exact .restored older store h hs
    | afresh h => exact .afresh h

end Engine

end FolderTalk
