import FolderTalk.Proofs.Engine.Failing
import FolderTalk.Proofs.Engine.SiblingNames
import FolderTalk.Proofs.Text.Lowered

/-!
# Moves from the command to the tree

The files of a move are chosen when the command is understood, by their extension or by one name up to
case. They are handed on by their names, and are chosen once more by these names when the move is
carried out, after the target may have been created.

* `Command.intends` : the files that a command is about, as the command says it; they are the ones
  that its move picks (`Command.picks_of_move`), and there is a move exactly if there are any
  (`Command.move?_isSome_iff`);
* `MovedTo` : what a move makes of a tree, in the command's own terms (`changed_of_move`);
* `execute_move_exact` : a carried-out move puts these files into the one folder that it names and
  changes nothing else, and the files that it counts are these.
-/

namespace FolderTalk

open Text (toLower strip)

theorem FileEntry.extension_eq_of_name {f g : FileEntry} (h : f.name = g.name) :
    f.extension = g.extension := by
  rw [extension, h, extension]

namespace Command

/-- Whether a command that the rule read is about the file: its extension is the given one, or its
name is that of the first file with the given name up to case. -/
def intends (store : Store) (rule : Rule) (found : Found) (f : FileEntry) : Bool :=
  match rule with
  | .moveByExtension => f.extension == toLower (found.group 1)
  | .moveFile => (store.findFile (strip (found.group 1))).any fun g => f.name == g.name
  | _ => false

variable {store : Store} {m : Move}

/-! ## The files that are picked -/

theorem mem_filesWithExtension {word : String} {f : FileEntry} :
    f ∈ store.filesWithExtension (toLower word) ↔ f ∈ store.files ∧ f.extension = toLower word := by
  rw [Store.filesWithExtension, List.mem_filter, beq_iff_eq, Text.toLower_toLower]

theorem picks_moveByExtension {word phrase : String}
    (h : (moveByExtension store word phrase).action.move? = some m) {f : FileEntry}
    (hf : f ∈ store.files) : m.picks f = (f.extension == toLower word) := by
  unfold moveByExtension at h
  dsimp only at h
  split at h
  · cases h
  · cases h
    rw [Bool.eq_iff_iff, List.contains_iff_mem, List.mem_map, beq_iff_eq]
    constructor
    · rintro ⟨g, hg, hname⟩
      rw [← FileEntry.extension_eq_of_name hname]
      exact (mem_filesWithExtension.mp hg).2
    · intro hextension
      exact ⟨f, mem_filesWithExtension.mpr ⟨hf, hextension⟩, rfl⟩

theorem picks_moveFile {filePhrase phrase : String}
    (h : (moveFile store filePhrase phrase).action.move? = some m) (f : FileEntry) :
    m.picks f = (store.findFile (strip filePhrase)).any fun g => f.name == g.name := by
  unfold moveFile at h
  dsimp only at h
  split at h
  · cases h
  · next hfile =>
    cases h
    rw [hfile]
    rfl

section Read
variable {text : String} {rule : Rule} {found : Found}
  (hfound : firstRule (normalise text) = some (rule, found))
include hfound

theorem recognise_eq_intentOf : recognise text store = intentOf rule found store := by
  rw [recognise, hfound]

theorem rule_of_move (hm : (recognise text store).action.move? = some m) :
    rule = .moveByExtension ∨ rule = .moveFile := by
  obtain ⟨r, found', hfound', hr, _⟩ := found_of_move hm
  cases hfound.symm.trans hfound'
  exact hr

theorem target_of_move (hm : (recognise text store).action.move? = some m) :
    (m.target, m.create) = destination store (found.group 2) := by
  obtain ⟨r, found', hfound', _, htarget⟩ := found_of_move hm
  cases hfound.symm.trans hfound'
  exact htarget

/-- **The move picks the files that the command is about.** -/
theorem picks_of_move (hm : (recognise text store).action.move? = some m) {f : FileEntry}
    (hf : f ∈ store.files) : m.picks f = intends store rule found f := by
  have hread : recognise text store = intentOf rule found store := recognise_eq_intentOf hfound
  rw [hread] at hm
  rcases rule_of_move hfound (hread ▸ hm) with rfl | rfl
  · exact picks_moveByExtension hm hf
  · exact picks_moveFile hm f

/-- A command that a rule for moves read asks for a move exactly if it is about some file. -/
theorem move?_isSome_iff (hrule : rule = .moveByExtension ∨ rule = .moveFile) :
    (recognise text store).action.move?.isSome ↔ ∃ f ∈ store.files, intends store rule found f := by
  rw [recognise_eq_intentOf hfound]
  rcases hrule with rfl | rfl
  · simp only [intentOf, moveByExtension, intends, beq_iff_eq]
    constructor
    · intro h
      split at h
      · cases h
      · next hsome =>
        obtain ⟨f, hf⟩ := List.exists_mem_of_ne_nil _ (mt List.isEmpty_iff.mpr hsome)
        exact ⟨f, mem_filesWithExtension.mp hf⟩
    · rintro ⟨f, hf⟩
      rw [if_neg]
      · rfl
      · intro hempty
        have hmem := mem_filesWithExtension.mpr hf
        rw [List.isEmpty_iff.mp hempty] at hmem
        cases hmem
  · simp only [intentOf, moveFile, intends]
    cases hfile : store.findFile (strip (found.group 1)) with
    | none => simp [notFound, reply, Action.move?]
    | some file =>
      have hmem : file ∈ store.files := List.mem_of_find?_eq_some hfile
      refine iff_of_true rfl ⟨file, hmem, ?_⟩
      exact beq_self_eq_true file.name

end Read

/-! ## The reply to a move by extension -/

/-- What is said of a move by extension. -/
def moveReply (created : Bool) (extension target : String) (count : Nat) : String :=
  if created then
    "Created \"" ++ target ++ "\" folder and moved " ++ toString count ++ " " ++ extension
      ++ " file(s) into it."
  else "Moved " ++ toString count ++ " " ++ extension ++ " file(s) to " ++ target ++ "."

theorem summary_moveByExtension {word phrase : String}
    (h : (moveByExtension store word phrase).action.move? = some m) :
    (moveByExtension store word phrase).summary =
      moveReply m.create (toLower word) m.target.name
        (store.files.countP fun f => f.extension == toLower word) := by
  have hcount : (store.filesWithExtension (toLower word)).length =
      store.files.countP fun f => f.extension == toLower word := by
    rw [List.countP_eq_length_filter, Store.filesWithExtension, Text.toLower_toLower]
  unfold moveByExtension at h ⊢
  dsimp only at h ⊢
  split at h
  · cases h
  · next hsome =>
    cases h
    rw [if_neg hsome, ← hcount]
    rfl

end Command

namespace Engine

open Command (Rule Found destination intends recognise firstRule normalise moveReply)

/-! ## What a move makes of a tree -/

/-- What a command that the rule read as a move makes of a tree, and the folder that it moves to: the
one that the phrase finds, or else a new one at the top. -/
inductive MovedTo (src : Sources) (store : Store) (rule : Rule) (found : Found) :
    Folder → Store → Prop
  | there (f : Folder) (h : store.findFolder (found.group 2) = some f) :
      MovedTo src store rule found f (moveFiles store (intends store rule found) f.id)
  | anew (id color : String) (h : store.findFolder (found.group 2) = none)
      (hid : TargetId src store ⟨Name.slug (found.group 2), Name.displayForm (found.group 2)⟩ id) :
      MovedTo src store rule found ⟨id, Name.displayForm (found.group 2), color, none⟩
        (moveFiles (store.withFolder ⟨id, Name.displayForm (found.group 2), color, none⟩)
          (intends store rule found) id)

variable {palette : List String} {src left : Sources} {store s : Store} {text : String}
  {rule : Rule} {found : Found} {m : Move}

theorem moveFiles_congr (store : Store) {p q : FileEntry → Bool}
    (h : ∀ f ∈ store.files, p f = q f) (id : String) :
    moveFiles store p id = moveFiles store q id := by
  have hfiles : ∀ f ∈ store.files,
      (if p f then { f with folder := some id } else f) =
        if q f then { f with folder := some id } else f := by
    intro f hf
    rw [h f hf]
  rw [moveFiles, List.map_congr_left hfiles, moveFiles]

/-- **A change that a move command asks for** makes of the tree what the command says. -/
theorem movedTo_of_changed (hfound : firstRule (normalise text) = some (rule, found))
    (hm : (recognise text store).action.move? = some m)
    (h : Changed src store (recognise text store).action s) :
    ∃ t, MovedTo src store rule found t s := by
  have hpicks : ∀ f ∈ store.files, m.picks f = intends store rule found f :=
    fun f hf => Command.picks_of_move hfound hm hf
  have htarget := Command.target_of_move hfound hm
  cases hlookup : store.findFolder (found.group 2) with
  | some f =>
    rw [Command.destination_of_some hlookup, Prod.mk.injEq] at htarget
    obtain ⟨htarget, hold⟩ := htarget
    obtain ⟨_, rfl⟩ | ⟨hnew, _⟩ := h.cases_of_move hm
    · rw [htarget, moveFiles_congr store hpicks]
      exact ⟨f, .there f hlookup⟩
    · cases hold.symm.trans hnew
  | none =>
    rw [Command.destination_of_none hlookup, Prod.mk.injEq] at htarget
    obtain ⟨htarget, hnew⟩ := htarget
    obtain ⟨hold, _⟩ | ⟨_, id, color, hid, rfl⟩ := h.cases_of_move hm
    · cases hold.symm.trans hnew
    · rw [htarget] at hid ⊢
      refine ⟨⟨id, Name.displayForm (found.group 2), color, none⟩, ?_⟩
      rw [moveFiles_congr (store.withFolder _) hpicks]
      exact .anew id color hlookup hid

section Moved
variable {t : Folder} (h : MovedTo src store rule found t s)
include h

theorem MovedTo.files_eq :
    s.files = store.files.map fun f =>
      if intends store rule found f then { f with folder := some t.id } else f := by
  cases h <;> rfl

theorem MovedTo.target_mem : t ∈ s.folders := by
  cases h with
  | there f h => exact Store.findFolder_mem h
  | anew id color _ _ => exact List.mem_append_right _ (List.mem_singleton_self _)

theorem MovedTo.distinctIds (hids : store.DistinctIds) : s.DistinctIds := by
  cases h with
  | there => exact hids
  | anew id color _ hid => exact distinctIds_add hids (not_mem_of_targetId hid)

theorem MovedTo.folders_of_some {f : Folder} (hf : store.findFolder (found.group 2) = some f) :
    t = f ∧ s.folders = store.folders := by
  cases h with
  | there g hg => exact ⟨Option.some.inj (hg.symm.trans hf), rfl⟩
  | anew id color hnone _ => cases hnone.symm.trans hf

theorem MovedTo.folders_of_none (hnone : store.findFolder (found.group 2) = none) :
    t.name = Name.displayForm (found.group 2) ∧ t.parent = none ∧ t.id ∉ store.folderIds ∧
      s.folders = store.folders ++ [t] := by
  cases h with
  | there g hg => cases hg.symm.trans hnone
  | anew id color _ hid => exact ⟨rfl, rfl, not_mem_of_targetId hid, rfl⟩

/-- The move that the command asks for says whether the folder is new, and what it is called. -/
theorem MovedTo.target_eq (htarget : (m.target, m.create) = destination store (found.group 2)) :
    m.create = (store.findFolder (found.group 2)).isNone ∧ m.target.name = t.name := by
  cases h with
  | there f hf =>
    rw [Command.destination_of_some hf, Prod.mk.injEq] at htarget
    rw [hf, htarget.1, htarget.2]
    exact ⟨rfl, rfl⟩
  | anew id color hnone _ =>
    rw [Command.destination_of_none hnone, Prod.mk.injEq] at htarget
    rw [hnone, htarget.1, htarget.2]
    exact ⟨rfl, rfl⟩

end Moved

/-! ## A move carried out -/

/-- What a move command makes of a desk: the files that it is about are in the folder `target`, which
the phrase found or which is new, and all else is as it was but for the record of the change. -/
structure MovedExactly (rule : Rule) (found : Found) (desk : Desk) (target : Folder)
    (effect : Effect) : Prop where
  mutated : effect.mutated = true
  target_mem : target ∈ effect.desk.store.folders
  target_only : ∀ f ∈ effect.desk.store.folders, f.id = target.id → f = target
  matched : ∀ f, desk.store.findFolder (found.group 2) = some f →
    target = f ∧ effect.desk.store.folders = desk.store.folders
  created : desk.store.findFolder (found.group 2) = none →
    target.name = Name.displayForm (found.group 2) ∧ target.parent = none ∧
      target.id ∉ desk.store.folderIds ∧
      effect.desk.store.folders = desk.store.folders ++ [target]
  files : effect.desk.store.files = desk.store.files.map fun f =>
    if intends desk.store rule found f then { f with folder := some target.id } else f
  counted : rule = .moveByExtension → effect.message =
    moveReply (desk.store.findFolder (found.group 2)).isNone (toLower (found.group 1)) target.name
      (desk.store.files.countP (intends desk.store rule found))
  selected : effect.desk.selected = desk.selected

theorem selectionAfter_of_move {action : Action} (hm : action.move? = some m)
    (selected : Option String) : selectionAfter action selected = selected := by
  cases action with
  | moveFile | moveByExtension => rfl
  | _ => cases hm

theorem replyTo_of_move {intent : Intent} (hm : intent.action.move? = some m) (before : Store) :
    replyTo intent before = intent.summary := by
  obtain ⟨action, summary⟩ := intent
  cases action with
  | moveFile | moveByExtension => rfl
  | _ => cases hm

/-- **Moves are exact.** A move command that is carried out, no clock reading and no colour that it
needs failing, puts the files that it is about into one folder and changes no other file: those with
the given extension, whose number it tells, or those with the name of the first file that has the
given name up to case. The folder is in the tree, and no other there has its identifier: it is the one
that the phrase finds, and then no folder is added, or a single new one at the top. The open folder
stays open. -/
theorem execute_move_exact (palette : List String) (src : Sources) (desk : Desk) (text : String)
    (m : Move) (hids : desk.store.DistinctIds)
    (hm : (recognise text desk.store).action.move? = some m)
    (hgiven : ¬ Fails palette src desk.store (recognise text desk.store).action) :
    ∃ rule found target, firstRule (normalise text) = some (rule, found) ∧
      (rule = .moveByExtension ∨ rule = .moveFile) ∧
      MovedExactly rule found desk target
        (execute palette src (recognise text desk.store) desk).1 := by
  obtain ⟨rule, found, hfound, hrule, htarget⟩ := Command.found_of_move hm
  obtain ⟨s, hs⟩ := Option.ne_none_iff_exists'.mp (mt change_eq_none_iff.mp hgiven)
  have hc : change palette src desk.store (recognise text desk.store).action = (some s, _) :=
    Prod.ext hs rfl
  obtain ⟨target, hmoved⟩ := movedTo_of_changed hfound hm (change_came hc)
  refine ⟨rule, found, target, hfound, hrule, ?_⟩
  rw [execute_of_changesTree _ _ _ _ (changesTree_of_move hm), hc]
  exact
    { mutated := rfl
      target_mem := hmoved.target_mem
      target_only := fun f hf => (hmoved.distinctIds hids).eq_of_id_eq hf hmoved.target_mem
      matched := fun f => hmoved.folders_of_some
      created := hmoved.folders_of_none
      files := hmoved.files_eq
      counted := by
        rintro rfl
        obtain ⟨hcreate, hname⟩ := hmoved.target_eq htarget
        have hread : recognise text desk.store = Command.intentOf .moveByExtension found desk.store :=
          Command.recognise_eq_intentOf hfound
        have hsummary := Command.summary_moveByExtension (hread ▸ hm)
        rw [hcreate, hname] at hsummary
        exact (replyTo_of_move hm desk.store).trans ((congrArg Intent.summary hread).trans hsummary)
      selected := selectionAfter_of_move hm _ }

/-- All files of one extension, in either case and of one name twice, moved into a new folder whose
plain identifier is taken. -/
theorem execute_move_exact_pictures :
    let src : Sources := { clock := fun _ => some 1000, colorFrom := fun _ colors => colors.head? }
    let store : Store :=
      { files := [⟨1, "a.PNG", .image, "", none⟩, ⟨2, "png", .other, "", none⟩,
          ⟨3, "b.tar.png", .image, "", some "old"⟩, ⟨4, "a.PNG", .image, "", some "pics"⟩]
        folders := [⟨"my-pics", "Else", "", none⟩, ⟨"pics", "Pictures", "", none⟩] }
    let desk : Desk := ⟨store, .empty 20 (by decide), some "pics"⟩
    let effect := (execute Palette.builtIn src (recognise "Move all PNG files to 'My Pics'" store) desk).1
    effect.message = "Created \"My pics\" folder and moved 3 png file(s) into it." ∧
      effect.desk.store.files.map (·.folder) =
        [some "my-pics-1000", none, some "my-pics-1000", some "my-pics-1000"] ∧
      ∃ rule found target,
        firstRule (normalise "Move all PNG files to 'My Pics'") = some (rule, found) ∧
        (rule = .moveByExtension ∨ rule = .moveFile) ∧ MovedExactly rule found desk target effect := by
  intro src store desk effect
  have hids : desk.store.DistinctIds := by decide
  obtain ⟨m, hm⟩ : ∃ m, (recognise "Move all PNG files to 'My Pics'" desk.store).action.move? = some m :=
    Option.isSome_iff_exists.mp (by decide +kernel)
  have hgiven : ¬ Fails Palette.builtIn src desk.store
      (recognise "Move all PNG files to 'My Pics'" desk.store).action := by decide +kernel
  refine ⟨by decide +kernel, by decide +kernel, ?_⟩
  exact execute_move_exact Palette.builtIn src desk _ m hids hm hgiven

end Engine

end FolderTalk
