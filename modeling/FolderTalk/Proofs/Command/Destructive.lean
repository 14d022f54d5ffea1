import FolderTalk.Proofs.Command.Grounded
import FolderTalk.Store.Seed

/-!
# Where destructive commands come from

Deleting and renaming are tried before all commands but undo and reset, and are looked for anywhere in
the text. So a command that opens with a harmless word can still delete or rename, if a destructive
command is written behind that word.

* `Rule.Written` : a command is written somewhere in a text; that is when it is found
  (`Rule.find_isSome_iff`);
* `HarmlesslyOpened` : a text opens with the word of another command. Nothing destructive begins in
  that word (`HarmlesslyOpened.find_eq`), and neither undo nor reset reads the text;
* `recognise_destructive` : such a text renames or deletes exactly if a renaming or deleting command is
  written behind its first word, is found first and can be resolved.
-/

namespace FolderTalk

/-- The action takes away a folder or its name. -/
def Action.Destructive : Action → Prop
  | .renameFolder .. | .deleteFolder .. => True
  | _ => False

namespace Command

open Text Pattern

/-! ## Commands written somewhere in a text -/

/-- The rule's command is written somewhere in the text. -/
def Rule.Written (r : Rule) (text : List Char) : Prop :=
  ∃ before t later, text = before ++ t ++ later ∧ r.pattern.Reads t

/-- A command that need not be the whole text is found exactly where it is written. -/
theorem Rule.find_isSome_iff {r : Rule} (h : r.isWholeText = false) (text : List Char) :
    (r.find text).isSome ↔ r.Written text := by
  have hfree : r.pattern.Unanchored := by
    cases r with
    | undo | reset => cases h
    | _ => simp [Rule.pattern, Rule.createOpening, Rule.folderName, Rule.fileName, Rule.toward,
        Rule.optionalWord, Rule.quoteMark, Rule.blanks, inOrder, firstOf, word, Unanchored]
  rw [Rule.find, h, if_neg Bool.false_ne_true]
  exact search_isSome_iff hfree

theorem Rule.find_eq_none_iff {r : Rule} (h : r.isWholeText = false) (text : List Char) :
    r.find text = none ↔ ¬ r.Written text := by
  rw [← Rule.find_isSome_iff h, Option.not_isSome_iff_eq_none]

/-! ## Texts that open with a harmless word -/

/-- The words that open the commands that neither rename nor delete. -/
def harmlessWords : List (List Char) :=
  ["create", "move", "open", "list", "show", "display"].map String.toList

/-- The command opens with a harmless word and white space; `rest` comes behind that. -/
def HarmlesslyOpened (command rest : List Char) : Prop :=
  ∃ w ∈ harmlessWords, ∃ b, isBlank b ∧ command = w ++ b :: rest

/-- Neither text begins with the other. -/
def Distinguished (u v : List Char) : Prop := ¬ u <+: v ∧ ¬ v <+: u

instance (u v : List Char) : Decidable (Distinguished u v) := inferInstanceAs (Decidable (_ ∧ _))

theorem Distinguished.not_isPrefix {u v : List Char} (h : Distinguished u v) (text : List Char) :
    ¬ u <+: v ++ text := fun hu =>
  (List.prefix_or_prefix_of_prefix hu (List.prefix_append v text)).elim h.1 h.2

/-- The word of each destructive command. -/
def destructiveWord : Rule → Option (List Char)
  | .renameFolder => some "rename".toList
  | .deleteFolder => some "delete".toList
  | _ => none

theorem isPrefix_of_reads {r : Rule} {k t : List Char} (hk : destructiveWord r = some k)
    (ht : r.pattern.Reads t) : k <+: t := by
  cases r with
  | renameFolder | deleteFolder =>
    cases hk
    obtain ⟨_, rest, rfl, rfl, _⟩ := ht
    exact List.prefix_append _ rest
  | _ => cases hk

theorem isWholeText_of_destructiveWord {r : Rule} {k : List Char} (hk : destructiveWord r = some k) :
    r.isWholeText = false := by
  cases r with
  | renameFolder | deleteFolder => rfl
  | _ => cases hk

theorem isBlank_head_of_destructiveWord {r : Rule} {k : List Char} (hk : destructiveWord r = some k) :
    ∃ c cs, k = c :: cs ∧ isBlank c = false := by
  cases r with
  | renameFolder | deleteFolder =>
    cases hk
    exact ⟨_, _, rfl, by decide⟩
  | _ => cases hk

/-- No destructive word begins inside a harmless one. -/
theorem distinguished_of_destructiveWord {r : Rule} {k w u : List Char}
    (hk : destructiveWord r = some k) (hw : w ∈ harmlessWords) (hu : u <:+ w) (hne : u ≠ []) :
    Distinguished k u := by
  have hall : ∀ k ∈ ["rename".toList, "delete".toList], ∀ w ∈ harmlessWords,
      ∀ u ∈ w.tails, u ≠ [] → Distinguished k u := by decide
  refine hall k ?_ w hw u ((List.mem_tails _ _).mpr hu) hne
  cases r with
  | renameFolder | deleteFolder =>
    cases hk
    decide
  | _ => cases hk

/-- The texts that must be whole commands. -/
def wholeTexts : List (List Char) :=
  ["undo", "revert", "go back", "reverse", "cancel", "reset", "clear all", "start over",
    "restore default"].map String.toList

theorem mem_wholeTexts_of_reads {r : Rule} {t : List Char} (hr : r.isWholeText)
    (ht : r.pattern.Reads t) : t ∈ wholeTexts := by
  cases r with
  | undo =>
    obtain ⟨word, _, rfl, hword, rfl⟩ := ht
    rcases hword with rfl | rfl | rfl | rfl | rfl <;> decide
  | reset =>
    obtain ⟨word, _, rfl, hword, rfl⟩ := ht
    rcases hword with rfl | rfl | rfl | rfl <;> decide
  | _ => cases hr

/-- The first rule of a list that is found is a rule of the list. -/
theorem not_firstRule_of_not_mem {rs : List Rule} {r : Rule} (hr : r ∉ rs) {text : List Char}
    {m : Found} : ¬ (rs.findSome? fun r => (r.find text).map fun m => (r, m)) = some (r, m) := by
  intro h
  obtain ⟨s, hs, hfound⟩ := List.exists_of_findSome?_eq_some h
  obtain ⟨_, _, heq⟩ := Option.map_eq_some_iff.mp hfound
  obtain ⟨rfl, _⟩ := Prod.mk.inj heq
  exact hr hs

section Opened
variable {command rest : List Char} (h : HarmlesslyOpened command rest)
include h

/-- A destructive command is found in such a text where it is found behind the opening word. -/
theorem HarmlesslyOpened.find_eq {r : Rule} {k : List Char} (hk : destructiveWord r = some k) :
    r.find command = r.find rest := by
  obtain ⟨w, hw, b, hb, rfl⟩ := h
  rw [Rule.find, Rule.find, isWholeText_of_destructiveWord hk, if_neg Bool.false_ne_true,
    if_neg Bool.false_ne_true, ← List.singleton_append, ← List.append_assoc]
  refine search_append fun u hu hne => advance_eq_none fun t later htext ht => ?_
  have hbegins : k <+: u ++ rest := (isPrefix_of_reads hk ht).trans ⟨later, htext.symm⟩
  -- What is left of the opening is the blank alone, or begins inside the harmless word.
  rcases List.suffix_concat_iff.mp hu with rfl | ⟨v, rfl, hv⟩
  · exact hne rfl
  · rw [List.append_assoc] at hbegins
    by_cases hempty : v = []
    · obtain ⟨c, cs, rfl, hc⟩ := isBlank_head_of_destructiveWord hk
      subst hempty
      obtain ⟨rfl, _⟩ := List.cons_prefix_cons.mp hbegins
      rw [hc] at hb
      cases hb
    · exact (distinguished_of_destructiveWord hk hw hv hempty).not_isPrefix _ hbegins

/-- Neither undo nor reset reads such a text. -/
theorem HarmlesslyOpened.find_whole {r : Rule} (hr : r.isWholeText) : r.find command = none := by
  obtain ⟨w, hw, b, _, rfl⟩ := h
  rw [Rule.find, hr, if_pos rfl]
  refine advance_eq_none fun t later htext ht => ?_
  have hall : ∀ t ∈ wholeTexts, ∀ w ∈ harmlessWords, Distinguished t w := by decide
  exact (hall t (mem_wholeTexts_of_reads hr ht) w hw).not_isPrefix _ ⟨later, htext.symm⟩

/-- The rule that reads such a text is renaming or deleting exactly if that command is found behind the
opening word, and renaming comes first. -/
theorem HarmlesslyOpened.firstRule_eq :
    firstRule command =
      (((Rule.renameFolder.find rest).map fun m => (Rule.renameFolder, m)) <|>
        ((Rule.deleteFolder.find rest).map fun m => (Rule.deleteFolder, m)) <|>
        ((Rule.all.drop 4).findSome? fun r => (r.find command).map fun m => (r, m))) := by
  rw [firstRule, ← h.find_eq (r := .renameFolder) rfl, ← h.find_eq (r := .deleteFolder) rfl]
  simp only [Rule.all, List.findSome?_cons, List.drop_succ_cons, List.drop_zero,
    h.find_whole (r := .undo) rfl, h.find_whole (r := .reset) rfl, Option.map_none]
  cases Rule.renameFolder.find command with
  | some m => rfl
  | none =>
    cases Rule.deleteFolder.find command with
    | some m => rfl
    | none => rfl

theorem HarmlesslyOpened.firstRule_rename_iff {m : Found} :
    firstRule command = some (.renameFolder, m) ↔ Rule.renameFolder.find rest = some m := by
  rw [h.firstRule_eq]
  cases hrename : Rule.renameFolder.find rest with
  | some m' => simp [some_orElse]
  | none =>
    cases hdelete : Rule.deleteFolder.find rest with
    | some m' => simp [some_orElse, none_orElse]
    | none =>
      simp only [Option.map_none, none_orElse, reduceCtorEq, iff_false]
      exact not_firstRule_of_not_mem (by decide)

theorem HarmlesslyOpened.firstRule_delete_iff {m : Found} :
    firstRule command = some (.deleteFolder, m) ↔
      Rule.renameFolder.find rest = none ∧ Rule.deleteFolder.find rest = some m := by
  rw [h.firstRule_eq]
  cases hrename : Rule.renameFolder.find rest with
  | some m' => simp [some_orElse]
  | none =>
    cases hdelete : Rule.deleteFolder.find rest with
    | some m' => simp [some_orElse, none_orElse]
    | none =>
      simp only [Option.map_none, none_orElse, reduceCtorEq, and_false, iff_false]
      exact not_firstRule_of_not_mem (by decide)

end Opened

/-! ## What the destructive rules ask for -/

section Asked
variable {store : Store} {text : String} {id old new name : String}

theorem rename_eq_iff {oldPhrase newPhrase : String} :
    (rename store oldPhrase newPhrase).action = .renameFolder id old new ↔
      ∃ f, store.findFolder (strip oldPhrase) = some f ∧
        (∀ g, store.findFolder (Name.displayForm newPhrase) = some g → g.id = f.id) ∧
        id = f.id ∧ old = f.name ∧ new = Name.displayForm newPhrase := by
  unfold rename
  dsimp only
  split
  · next hnone => simp [hnone, notFound, reply]
  · next f hf =>
    simp only [hf, Option.some.injEq, exists_eq_left']
    cases hnew : store.findFolder (Name.displayForm newPhrase) with
    | none => simp [eq_comm]
    | some g =>
      by_cases hsame : g.id = f.id
      · simp [hsame, eq_comm]
      · simp [hsame, nameTaken, reply]

theorem delete_eq_iff {phrase : String} :
    (delete store phrase).action = .deleteFolder id name ↔
      ∃ f, findPhrase store (strip phrase) = some f ∧ id = f.id ∧ name = f.name := by
  unfold delete
  dsimp only
  split
  · next hnone => simp [hnone, notFound, reply]
  · next f hf => simp [hf, eq_comm]

/-- A command renames a folder exactly if the rule for it reads the text and its operands are
resolved. -/
theorem recognise_rename_iff :
    (recognise text store).action = .renameFolder id old new ↔
      ∃ m, firstRule (normalise text) = some (.renameFolder, m) ∧
        (rename store (m.group 1) (m.group 2)).action = .renameFolder id old new := by
  constructor
  · intro h
    obtain ⟨m, hm, hread⟩ := recognise_of_tag (r := .renameFolder) (by rw [h]; rfl)
    exact ⟨m, hm, by rw [← h, hread]; rfl⟩
  · rintro ⟨m, hm, hread⟩
    rw [recognise, hm]
    exact hread

theorem recognise_delete_iff :
    (recognise text store).action = .deleteFolder id name ↔
      ∃ m, firstRule (normalise text) = some (.deleteFolder, m) ∧
        (delete store (m.group 1)).action = .deleteFolder id name := by
  constructor
  · intro h
    obtain ⟨m, hm, hread⟩ := recognise_of_tag (r := .deleteFolder) (by rw [h]; rfl)
    exact ⟨m, hm, by rw [← h, hread]; rfl⟩
  · rintro ⟨m, hm, hread⟩
    rw [recognise, hm]
    exact hread

end Asked

/-- **A text that opens with the word of another command** and white space is destructive only if a
destructive command is written behind that word. It renames exactly if a renaming command is found
there whose folder is found and whose new name no other folder answers to; and it deletes exactly if no
renaming command is written there and the phrase of the first deleting command finds a folder. -/
theorem recognise_destructive (text : String) (store : Store) (rest : List Char)
    (h : HarmlesslyOpened (normalise text) rest) :
    ((recognise text store).action.Destructive →
      Rule.renameFolder.Written rest ∨ Rule.deleteFolder.Written rest) ∧
    (∀ id old new, (recognise text store).action = .renameFolder id old new ↔
      ∃ m f, Rule.renameFolder.find rest = some m ∧
        store.findFolder (strip (m.group 1)) = some f ∧
        (∀ g, store.findFolder (Name.displayForm (m.group 2)) = some g → g.id = f.id) ∧
        id = f.id ∧ old = f.name ∧ new = Name.displayForm (m.group 2)) ∧
    ∀ id name, (recognise text store).action = .deleteFolder id name ↔
      ¬ Rule.renameFolder.Written rest ∧ ∃ m f, Rule.deleteFolder.find rest = some m ∧
        findPhrase store (strip (m.group 1)) = some f ∧ id = f.id ∧ name = f.name := by
  have hrename : ∀ id old new, (recognise text store).action = .renameFolder id old new ↔
      ∃ m f, Rule.renameFolder.find rest = some m ∧
        store.findFolder (strip (m.group 1)) = some f ∧
        (∀ g, store.findFolder (Name.displayForm (m.group 2)) = some g → g.id = f.id) ∧
        id = f.id ∧ old = f.name ∧ new = Name.displayForm (m.group 2) := by
    intro id old new
    simp only [recognise_rename_iff, h.firstRule_rename_iff, rename_eq_iff, exists_and_left]
  have hdelete : ∀ id name, (recognise text store).action = .deleteFolder id name ↔
      ¬ Rule.renameFolder.Written rest ∧ ∃ m f, Rule.deleteFolder.find rest = some m ∧
        findPhrase store (strip (m.group 1)) = some f ∧ id = f.id ∧ name = f.name := by
    intro id name
    simp only [recognise_delete_iff, h.firstRule_delete_iff, delete_eq_iff, exists_and_left,
      ← Rule.find_eq_none_iff (r := .renameFolder) rfl, and_assoc]
  refine ⟨fun hdestructive => ?_, hrename, hdelete⟩
  cases haction : (recognise text store).action with
  | renameFolder id old new =>
    obtain ⟨m, _, hm, _⟩ := (hrename id old new).mp haction
    exact .inl ((Rule.find_isSome_iff rfl rest).mp (Option.isSome_of_mem hm))
  | deleteFolder id name =>
    obtain ⟨_, m, _, hm, _⟩ := (hdelete id name).mp haction
    exact .inr ((Rule.find_isSome_iff rfl rest).mp (Option.isSome_of_mem hm))
  | _ =>
    rw [haction] at hdestructive
    exact hdestructive.elim

/-- A folder to be opened whose name is not known, and in it the word of the other command. -/
theorem recognise_destructive_undelete :
    HarmlesslyOpened (normalise "Open undelete images") "undelete images".toList ∧
      (recognise "Open undelete images" Store.seed).action = .deleteFolder "images" "Images" := by
  have h : HarmlesslyOpened (normalise "Open undelete images") "undelete images".toList :=
    ⟨"open".toList, by decide, ' ', by decide, by decide +kernel⟩
  refine ⟨h, ((recognise_destructive _ Store.seed _ h).2.2 _ _).mpr ⟨?_, ?_⟩⟩
  · rw [← Rule.find_eq_none_iff (r := .renameFolder) rfl]
    decide +kernel
  · exact ⟨⟨"delete images".toList, ["images".toList]⟩,
      ⟨"images", "Images", "bg-blue-500", none⟩, by decide +kernel⟩

/-- A command to create a folder can delete one. -/
theorem harmlessly_opened_deletes :
    ¬ ∀ (text : String) (store : Store) (rest : List Char), HarmlesslyOpened (normalise text) rest →
      ¬ (recognise text store).action.Destructive := by
  intro h
  have haction : (recognise "create folder delete images" Store.seed).action
      = .deleteFolder "images" "Images" := by decide +kernel
  refine h "create folder delete images" Store.seed "folder delete images".toList
    ⟨"create".toList, by decide, ' ', by decide, by decide +kernel⟩ ?_
  rw [haction]
  trivial

end Command

end FolderTalk
