import FolderTalk.Proofs.Engine.Step

/-!
# Sources that give the same

What the engine does depends on its sources only through the readings and the choices that are still
to come.

* `Sources.Alike` : two sources have the same readings and choices to give;
* `execute_alike` : with such sources an intent has the same effect, and the sources stay alike.
-/

namespace FolderTalk

/-- The sources give the same readings and the same choices from now on. -/
structure Sources.Alike (a b : Sources) : Prop where
  clock : ∀ n, a.clock (a.readings + n) = b.clock (b.readings + n)
  colorFrom : ∀ n, a.colorFrom (a.choices + n) = b.colorFrom (b.choices + n)

namespace Sources.Alike

variable {a b : Sources}

theorem now? (h : a.Alike b) : a.now? = b.now? := h.clock 0

theorem color? (h : a.Alike b) (palette : List String) : a.color? palette = b.color? palette :=
  congrFun (h.colorFrom 0) palette

theorem afterReading (h : a.Alike b) : a.afterReading.Alike b.afterReading where
  clock n := by
    show a.clock (a.readings + 1 + n) = b.clock (b.readings + 1 + n)
    rw [Nat.add_assoc, Nat.add_assoc]
    exact h.clock (1 + n)
  colorFrom := h.colorFrom

theorem afterChoice (h : a.Alike b) : a.afterChoice.Alike b.afterChoice where
  clock := h.clock
  colorFrom n := by
    show a.colorFrom (a.choices + 1 + n) = b.colorFrom (b.choices + 1 + n)
    rw [Nat.add_assoc, Nat.add_assoc]
    exact h.colorFrom (1 + n)

end Sources.Alike

namespace Engine

variable {a b : Sources} {palette : List String} {store : Store}

/-- The results are the same, and the sources that are left are alike. -/
def Agree {α : Type} (r r' : α × Sources) : Prop := r.1 = r'.1 ∧ r.2.Alike r'.2

theorem Agree.map {α β : Type} {r r' : α × Sources} (h : Agree r r') (f : α → β) :
    Agree (f r.1, r.2) (f r'.1, r'.2) :=
  ⟨congrArg f h.1, h.2⟩

theorem uniqueId?_alike (h : a.Alike b) (store : Store) (base : String) :
    uniqueId? a store base = uniqueId? b store base := by
  rw [uniqueId?, uniqueId?, h.now?]

theorem addFolder_alike (h : a.Alike b) (id name : String) (parent : Option String) :
    Agree (addFolder palette a store id name parent) (addFolder palette b store id name parent) :=
  ⟨by rw [addFolder, addFolder, h.color?], h.afterChoice⟩

theorem createFolder_alike (h : a.Alike b) (name : String) (parent : Option String) :
    Agree (createFolder palette a store name parent)
      (createFolder palette b store name parent) := by
  unfold createFolder
  rw [uniqueId?_alike h]
  cases uniqueId? b store (idBase name parent) with
  | none => exact ⟨rfl, h.afterReading⟩
  | some id => exact addFolder_alike h.afterReading id name parent

theorem ensureTarget_alike (h : a.Alike b) (target : Destination) (create : Bool) :
    Agree (ensureTarget palette a store target create)
      (ensureTarget palette b store target create) := by
  unfold ensureTarget
  rw [uniqueId?_alike h]
  split
  · exact ⟨rfl, h⟩
  · split
    · cases uniqueId? b store target.id with
      | none => exact ⟨rfl, h.afterReading⟩
      | some id =>
        exact (addFolder_alike h.afterReading id target.name none).map (·.map fun s => (id, s))
    · exact (addFolder_alike h target.id target.name none).map (·.map fun s => (target.id, s))

theorem change_alike (h : a.Alike b) (palette : List String) (store : Store) (action : Action) :
    Agree (change palette a store action) (change palette b store action) := by
  cases action with
  | createSimple name => exact createFolder_alike h name none
  | createNested name parentId _ => exact createFolder_alike h name (some parentId)
  | moveFile fileName target create =>
    exact (ensureTarget_alike h target create).map
      (·.map fun made => moveFiles made.2 (·.name == fileName) made.1)
  | moveByExtension _ target create fileNames =>
    exact (ensureTarget_alike h target create).map
      (·.map fun made => moveFiles made.2 (fun f => fileNames.contains f.name) made.1)
  | _ => exact ⟨rfl, h⟩

/-- **Sources that are alike** lead to the same effect of an intent and stay alike. -/
theorem execute_alike (h : a.Alike b) (palette : List String) (intent : Intent) (desk : Desk) :
    Agree (execute palette a intent desk) (execute palette b intent desk) := by
  by_cases htree : intent.action.changesTree
  · have hchange := change_alike h palette desk.store intent.action
    rw [execute_of_changesTree _ _ _ _ htree, execute_of_changesTree _ _ _ _ htree]
    rcases hmade : change palette a desk.store intent.action with ⟨made, left⟩
    rcases hmade' : change palette b desk.store intent.action with ⟨made', left'⟩
    rw [hmade, hmade'] at hchange
    obtain ⟨hsame, hleft⟩ := hchange
    obtain rfl : made = made' := hsame
    cases made <;> exact ⟨rfl, hleft⟩
  · unfold execute
    cases haction : intent.action with
    | undo | reset | info | list | openFolder _ => exact ⟨rfl, h⟩
    | _ => exact absurd (by rw [haction]; rfl) htree

end Engine

end FolderTalk
