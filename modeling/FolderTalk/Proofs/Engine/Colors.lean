import FolderTalk.Proofs.Command.Language
import FolderTalk.Proofs.Engine.Step
import Mathlib.Data.List.Basic

/-!
# Colours do not matter

Colours are drawn for new folders and kept with them, and nothing else looks at them. So erasing them
commutes with everything that is done with a tree, and a run whose choices of colours do not fail is,
but for the colours, the run of a source that gives no colour at all.

* `Store.uncolored`, `Desk.uncolored`, `Effect.uncolored` : the same without colours;
* `Command.recognise_uncolored` : a command is understood alike with and without colours;
* `Engine.execute_uncolored` : an intent has the same effect with and without colours.
-/

namespace FolderTalk

/-! ## Erasing colours -/

def Folder.uncolored (f : Folder) : Folder := { f with color := "" }

def Store.uncolored (s : Store) : Store := { s with folders := s.folders.map Folder.uncolored }

def History.uncolored (h : History) : History :=
  { h with snapshots := h.snapshots.map Store.uncolored }

def Desk.uncolored (d : Desk) : Desk :=
  { d with store := d.store.uncolored, history := d.history.uncolored }

def Effect.uncolored (e : Effect) : Effect := { e with desk := e.desk.uncolored }

/-- Sources with the same readings that give an empty colour whenever one is drawn. -/
def Sources.uncolored (src : Sources) : Sources := { src with colorFrom := fun _ _ => some "" }

/-- No choice of a colour from the palette fails. -/
def Sources.AlwaysChoose (src : Sources) (palette : List String) : Prop :=
  ∀ n, (src.colorFrom n palette).isSome

namespace Store

variable {s t : Store}

@[simp] theorem uncolored_files (s : Store) : s.uncolored.files = s.files := rfl

@[simp] theorem uncolored_folders (s : Store) :
    s.uncolored.folders = s.folders.map Folder.uncolored := rfl

@[simp] theorem folderIds_uncolored (s : Store) : s.uncolored.folderIds = s.folderIds := by
  rw [folderIds, uncolored_folders, List.map_map]
  rfl

@[simp] theorem uncolored_uncolored (s : Store) : s.uncolored.uncolored = s.uncolored := by
  rw [uncolored, uncolored_folders, List.map_map]
  rfl

end Store

@[simp] theorem History.uncolored_limit (h : History) : h.uncolored.limit = h.limit := rfl

@[simp] theorem History.uncolored_snapshots (h : History) :
    h.uncolored.snapshots = h.snapshots.map Store.uncolored := rfl

theorem newest_map {α β : Type} (f : α → β) (n : Nat) (xs : List α) :
    newest n (xs.map f) = (newest n xs).map f := by
  rw [newest, newest, List.length_map, List.map_drop]

theorem History.uncolored_push (h : History) (s : Store) :
    (h.push s).uncolored = h.uncolored.push s.uncolored := by
  simp only [History.uncolored, push, ← newest_map, List.map_append, List.map_singleton]

@[simp] theorem History.uncolored_uncolored (h : History) : h.uncolored.uncolored = h.uncolored := by
  simp only [History.uncolored, List.map_map]
  congr 1
  exact List.map_congr_left fun s _ => s.uncolored_uncolored

@[simp] theorem Desk.uncolored_uncolored (d : Desk) : d.uncolored.uncolored = d.uncolored := by
  simp only [Desk.uncolored, Store.uncolored_uncolored, History.uncolored_uncolored]

/-! ## Understanding commands -/

namespace Store

theorem find?_uncolored (p : Folder → Bool) (hp : ∀ f, p f.uncolored = p f) (s : Store) :
    s.uncolored.folders.find? p = (s.folders.find? p).map Folder.uncolored := by
  rw [uncolored_folders, List.find?_map]
  congr 1
  exact congrArg (List.find? · s.folders) (funext hp)

theorem map_orElse {α β : Type} (f : α → β) (x y : Option α) :
    (x <|> y).map f = (x.map f <|> y.map f) := by
  cases x with
  | none => rfl
  | some a => rfl

theorem findFolder_uncolored (s : Store) (phrase : String) :
    s.uncolored.findFolder phrase = (s.findFolder phrase).map Folder.uncolored := by
  unfold findFolder
  dsimp only
  rw [find?_uncolored _ (fun _ => rfl), find?_uncolored _ (fun _ => rfl),
    find?_uncolored _ (fun _ => rfl), map_orElse, map_orElse]

end Store

namespace Command

variable (s : Store)

theorem findPhrase_uncolored (phrase : String) :
    findPhrase s.uncolored phrase = (findPhrase s phrase).map Folder.uncolored := by
  unfold findPhrase
  rw [Store.findFolder_uncolored, Store.map_orElse]
  cases withoutFolderWord? phrase with
  | none => rfl
  | some shorter => rw [Option.bind_some, Option.bind_some, Store.findFolder_uncolored]

theorem destination_uncolored (phrase : String) :
    destination s.uncolored phrase = destination s phrase := by
  unfold destination
  rw [Store.findFolder_uncolored]
  cases s.findFolder phrase <;> rfl

theorem rename_uncolored (oldPhrase newPhrase : String) :
    rename s.uncolored oldPhrase newPhrase = rename s oldPhrase newPhrase := by
  unfold rename
  dsimp only
  rw [Store.findFolder_uncolored, Store.findFolder_uncolored]
  cases s.findFolder (Text.strip oldPhrase) with
  | none => rfl
  | some f => cases s.findFolder (Name.displayForm newPhrase) <;> rfl

theorem delete_uncolored (phrase : String) : delete s.uncolored phrase = delete s phrase := by
  unfold delete
  dsimp only
  rw [findPhrase_uncolored]
  cases findPhrase s (Text.strip phrase) <;> rfl

theorem hasSibling_uncolored (name parentId : String) :
    hasSibling s.uncolored name parentId = hasSibling s name parentId := by
  unfold hasSibling
  rw [Store.uncolored_folders, List.any_map]
  rfl

theorem createNested_uncolored (newPhrase parentPhrase : String) :
    createNested s.uncolored newPhrase parentPhrase = createNested s newPhrase parentPhrase := by
  unfold createNested
  dsimp only
  rw [Store.findFolder_uncolored]
  cases s.findFolder (Text.strip parentPhrase) with
  | none => rfl
  | some parent =>
    simp only [Option.map_some, hasSibling_uncolored]
    rfl

theorem createSimple_uncolored (phrase : String) :
    createSimple s.uncolored phrase = createSimple s phrase := by
  unfold createSimple
  dsimp only
  rw [Store.findFolder_uncolored, Option.isSome_map]

theorem openFolder_uncolored (phrase : String) :
    openFolder s.uncolored phrase = openFolder s phrase := by
  unfold openFolder
  dsimp only
  rw [findPhrase_uncolored]
  cases findPhrase s (Text.strip phrase) <;> rfl

theorem list_uncolored : list s.uncolored = list s := by
  unfold list
  rw [Store.uncolored_folders, List.length_map, Store.uncolored_files]

theorem moveByExtension_uncolored (word phrase : String) :
    moveByExtension s.uncolored word phrase = moveByExtension s word phrase := by
  unfold moveByExtension
  simp only [destination_uncolored]
  rfl

theorem moveFile_uncolored (filePhrase phrase : String) :
    moveFile s.uncolored filePhrase phrase = moveFile s filePhrase phrase := by
  unfold moveFile
  simp only [destination_uncolored]
  rfl

/-- **A command is understood alike** with and without colours. -/
theorem recognise_uncolored (text : String) : recognise text s.uncolored = recognise text s := by
  unfold recognise
  split
  · next r m _ =>
    cases r with
    | undo | reset => rfl
    | renameFolder => exact rename_uncolored s _ _
    | deleteFolder => exact delete_uncolored s _
    | createNested => exact createNested_uncolored s _ _
    | createSimple => exact createSimple_uncolored s _
    | moveByExtension => exact moveByExtension_uncolored s _ _
    | moveFile => exact moveFile_uncolored s _ _
    | list => exact list_uncolored s
    | openFolder => exact openFolder_uncolored s _
  · rfl

end Command

/-! ## Carrying out intents -/

namespace Engine

variable {palette : List String} {src : Sources} {s : Store}

/-- What is left of a change without colours. -/
def erased (r : Option Store × Sources) : Option Store × Sources :=
  (r.1.map Store.uncolored, r.2.uncolored)

theorem uniqueId?_uncolored (src : Sources) (s : Store) (base : String) :
    uniqueId? src.uncolored s.uncolored base = uniqueId? src s base := by
  unfold uniqueId?
  rw [Store.folderIds_uncolored, Store.uncolored_folders, List.length_map]
  rfl

theorem addFolder_uncolored (h : src.AlwaysChoose palette) (id name : String)
    (parent : Option String) :
    addFolder [] src.uncolored s.uncolored id name parent =
      erased (addFolder palette src s id name parent) := by
  obtain ⟨color, hcolor⟩ := Option.isSome_iff_exists.mp (h src.choices)
  have hdrawn : src.color? palette = some color := hcolor
  unfold addFolder erased
  rw [hdrawn]
  simp only [Option.map_some, Store.uncolored, List.map_append, List.map_singleton]
  rfl

theorem createFolder_uncolored (h : src.AlwaysChoose palette) (name : String)
    (parent : Option String) :
    createFolder [] src.uncolored s.uncolored name parent =
      erased (createFolder palette src s name parent) := by
  unfold createFolder
  rw [uniqueId?_uncolored]
  cases uniqueId? src s (idBase name parent) with
  | none => rfl
  | some id =>
    have hafter : src.afterReading.AlwaysChoose palette := h
    exact addFolder_uncolored hafter id name parent

theorem ensureTarget_uncolored (h : src.AlwaysChoose palette) (target : Destination) (create : Bool) :
    ensureTarget [] src.uncolored s.uncolored target create =
      ((ensureTarget palette src s target create).1.map fun made => (made.1, made.2.uncolored),
        (ensureTarget palette src s target create).2.uncolored) := by
  unfold ensureTarget
  rw [uniqueId?_uncolored, Store.folderIds_uncolored]
  split
  · rfl
  · split
    · cases uniqueId? src s target.id with
      | none => rfl
      | some id =>
        have hafter : src.afterReading.AlwaysChoose palette := h
        have hadded := addFolder_uncolored (s := s) hafter id target.name none
        simp only [show src.uncolored.afterReading = src.afterReading.uncolored from rfl, hadded]
        rcases addFolder palette src.afterReading s id target.name none with ⟨_ | made, left⟩ <;> rfl
    · simp only [addFolder_uncolored h]
      rcases addFolder palette src s target.id target.name none with ⟨_ | made, left⟩ <;> rfl

theorem renameFolder_uncolored (s : Store) (id name : String) :
    renameFolder s.uncolored id name = (renameFolder s id name).uncolored := by
  unfold renameFolder
  simp only [Store.uncolored, List.map_map]
  congr 1
  refine List.map_congr_left fun f _ => ?_
  show (if f.id == id then _ else _) = Folder.uncolored (if f.id == id then _ else _)
  split <;> rfl

theorem deleteFolder_uncolored (s : Store) (id : String) :
    deleteFolder s.uncolored id = (deleteFolder s id).uncolored := by
  unfold deleteFolder
  simp only [Store.uncolored, List.filter_map]
  rfl

/-- A change is the same with and without colours. -/
theorem change_uncolored (h : src.AlwaysChoose palette) (s : Store) (action : Action) :
    change [] src.uncolored s.uncolored action = erased (change palette src s action) := by
  cases action with
  | createSimple name => exact createFolder_uncolored h name none
  | createNested name parentId _ => exact createFolder_uncolored h name (some parentId)
  | moveFile fileName target create =>
    simp only [change, ensureTarget_uncolored h]
    rcases ensureTarget palette src s target create with ⟨_ | made, left⟩ <;> rfl
  | moveByExtension _ target create fileNames =>
    simp only [change, ensureTarget_uncolored h]
    rcases ensureTarget palette src s target create with ⟨_ | made, left⟩ <;> rfl
  | renameFolder id _ newName =>
    simp only [change, erased, renameFolder_uncolored, Option.map_some]
  | deleteFolder id _ => simp only [change, erased, deleteFolder_uncolored, Option.map_some]
  | _ => rfl

theorem undo_uncolored (desk : Desk) : undo desk.uncolored = (undo desk).uncolored := by
  rcases List.eq_nil_or_concat desk.history.snapshots with hs | ⟨older, newest, hs⟩
  · have hnone : desk.uncolored.history.snapshots = [] := by
      show desk.history.snapshots.map Store.uncolored = []
      rw [hs, List.map_nil]
    rw [undo, undo, History.pop?_of_nil hs, History.pop?_of_nil hnone]
    rfl
  · rw [List.concat_eq_append] at hs
    have hsnoc : desk.uncolored.history.snapshots =
        older.map Store.uncolored ++ [newest.uncolored] := by
      show desk.history.snapshots.map Store.uncolored = _
      rw [hs, List.map_append, List.map_singleton]
    rw [undo, undo, History.pop?_of_snoc hs, History.pop?_of_snoc hsnoc]
    rfl

/-- **An intent has the same effect** with and without colours, but for the colours. -/
theorem execute_uncolored (h : src.AlwaysChoose palette) (intent : Intent) (desk : Desk) :
    (execute [] src.uncolored intent desk.uncolored).1.uncolored =
        (execute palette src intent desk).1.uncolored ∧
      (execute [] src.uncolored intent desk.uncolored).2 =
        (execute palette src intent desk).2.uncolored := by
  by_cases htree : intent.action.changesTree
  · rw [execute_of_changesTree _ _ _ _ htree, execute_of_changesTree _ _ _ _ htree,
      show desk.uncolored.store = desk.store.uncolored from rfl, change_uncolored h]
    rcases change palette src desk.store intent.action with ⟨_ | made, left⟩
    · exact ⟨by simp only [erased, Option.map_none, Effect.uncolored, Desk.uncolored_uncolored], rfl⟩
    · refine ⟨?_, rfl⟩
      have hhistory : (desk.uncolored.history.push desk.store.uncolored).uncolored =
          (desk.history.push desk.store).uncolored := by
        rw [show desk.uncolored.history = desk.history.uncolored from rfl, ← History.uncolored_push,
          History.uncolored_uncolored]
      simp only [erased, Option.map_some, Effect.uncolored, Desk.uncolored,
        Store.uncolored_uncolored] at hhistory ⊢
      rw [hhistory]
      rfl
  · unfold execute
    cases haction : intent.action with
    | undo => exact ⟨by simp only [undo_uncolored, Effect.uncolored, Desk.uncolored_uncolored], rfl⟩
    | reset => exact ⟨rfl, rfl⟩
    | info | list =>
      exact ⟨by simp only [Effect.uncolored, Desk.uncolored_uncolored], rfl⟩
    | openFolder id =>
      refine ⟨?_, rfl⟩
      simp only [Effect.uncolored, Desk.uncolored, Store.uncolored_uncolored,
        History.uncolored_uncolored]
    | _ => exact absurd (by rw [haction]; rfl) htree

/-! ## Two palettes -/

theorem createFolder_colorFrom (palette : List String) (src : Sources) (s : Store) (name : String)
    (parent : Option String) :
    (createFolder palette src s name parent).2.colorFrom = src.colorFrom := by
  unfold createFolder
  split <;> rfl

theorem ensureTarget_colorFrom (palette : List String) (src : Sources) (s : Store)
    (target : Destination) (create : Bool) :
    (ensureTarget palette src s target create).2.colorFrom = src.colorFrom := by
  unfold ensureTarget
  split
  · rfl
  · split
    · split <;> rfl
    · rfl

theorem change_colorFrom (palette : List String) (src : Sources) (s : Store) (action : Action) :
    (change palette src s action).2.colorFrom = src.colorFrom := by
  cases action with
  | createSimple name => exact createFolder_colorFrom palette src s name none
  | createNested name parentId _ => exact createFolder_colorFrom palette src s name (some parentId)
  | moveFile _ target create | moveByExtension _ target create _ =>
    exact ensureTarget_colorFrom palette src s target create
  | _ => rfl

/-- Carrying out an intent leaves the choices that are still to come as they are. -/
theorem execute_colorFrom (palette : List String) (src : Sources) (intent : Intent) (desk : Desk) :
    (execute palette src intent desk).2.colorFrom = src.colorFrom := by
  by_cases htree : intent.action.changesTree
  · have hchange := change_colorFrom palette src desk.store intent.action
    rw [execute_of_changesTree _ _ _ _ htree]
    rcases hmade : change palette src desk.store intent.action with ⟨_ | made, left⟩
    · rw [hmade] at hchange
      exact hchange
    · rw [hmade] at hchange
      exact hchange
  · unfold execute
    cases haction : intent.action with
    | undo | reset | info | list | openFolder _ => rfl
    | _ => exact absurd (by rw [haction]; rfl) htree

/-- **Desks that differ in colours alone** differ in colours alone after an intent, and so do the
replies. -/
theorem execute_eq_but_colors {palette' : List String} {src' : Sources} {desk desk' : Desk}
    (h : src.AlwaysChoose palette) (h' : src'.AlwaysChoose palette')
    (hsrc : src.uncolored = src'.uncolored) (hdesk : desk.uncolored = desk'.uncolored)
    (intent : Intent) :
    (execute palette src intent desk).1.uncolored =
        (execute palette' src' intent desk').1.uncolored ∧
      (execute palette src intent desk).2.uncolored =
        (execute palette' src' intent desk').2.uncolored := by
  obtain ⟨heffect, hleft⟩ := execute_uncolored h intent desk
  obtain ⟨heffect', hleft'⟩ := execute_uncolored h' intent desk'
  rw [← heffect, ← heffect', ← hleft, ← hleft', hsrc, hdesk]
  exact ⟨rfl, rfl⟩

end Engine

end FolderTalk
