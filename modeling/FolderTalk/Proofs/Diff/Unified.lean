import FolderTalk.Diff.Unified
import Mathlib.Data.List.Basic

/-!
# The changes in a unified diff

However the stretches of two texts are put into hunks, the hunks hold exactly the changes: shared
stretches are cut and left out, changes never.

* `hunks_changes` : the changes in the hunks are those of the comparison;
* `unified_any_iff` : what some line of a unified diff is, if no line around the changes is it;
* `compare_filter` : texts that differ only in lines that do not count agree in all others.
-/

namespace FolderTalk.Diff

variable {α : Type}

namespace Piece

/-- Whether a stretch is a change. -/
def isChange : Piece α → Bool
  | .same _ => false
  | .change .. => true

/-- The lines of a stretch that are in the old text only. -/
def removed : Piece α → List α
  | .same _ => []
  | .change removed _ => removed

/-- The lines of a stretch that are in the new text only. -/
def added : Piece α → List α
  | .same _ => []
  | .change _ added => added

end Piece

namespace Hunk

/-- The changes in a hunk. -/
def changes (h : Hunk α) : List (Piece α) := h.pieces.filter Piece.isChange

theorem changes_snoc (h : Hunk α) (p : Piece α) :
    (h.snoc p).changes = h.changes ++ [p].filter Piece.isChange := List.filter_append ..

theorem changes_same (start start' : Nat) (items : List α) :
    (Hunk.mk start start' [.same items]).changes = [] := rfl

theorem changes_of_isEmpty {h : Hunk α} (hempty : h.pieces.isEmpty) : h.changes = [] := by
  rw [changes, List.isEmpty_iff.mp hempty, List.filter_nil]

/-- A hunk is left out only if there is no change in it. -/
theorem ifChanged_changes (h : Hunk α) : h.ifChanged.flatMap changes = h.changes := by
  unfold ifChanged
  split
  · simp
  · next hno =>
    rw [List.flatMap_nil]
    refine (List.filter_eq_nil_iff.mpr fun p hp hchange => hno ?_).symm
    refine List.any_eq_true.mpr ⟨p, hp, ?_⟩
    cases p with
    | same items => cases hchange
    | change removed added => rfl

/-- The hunks that stretches are gathered into hold their changes, behind those of the hunk being
filled. -/
theorem gather_changes (h : Hunk α) (ps : List (Piece α)) :
    (h.gather ps).flatMap changes = h.changes ++ ps.filter Piece.isChange := by
  induction ps generalizing h with
  | nil => rw [gather, ifChanged_changes, List.filter_nil, List.append_nil]
  | cons p ps ih =>
    cases p with
    | change removed added =>
      rw [gather, ih, changes_snoc, List.append_assoc]
      · rfl
      · simp
    | same items =>
      rw [gather]
      dsimp only
      split
      · next hempty => rw [ih, changes_same, changes_of_isEmpty hempty]; rfl
      · split
        · next hlast =>
          rw [ifChanged_changes, changes_snoc, List.isEmpty_iff.mp hlast]
          rfl
        · split
          · rw [List.flatMap_cons, ih, changes_snoc, changes_same, List.append_assoc]
            rfl
          · rw [ih, changes_snoc, List.append_assoc]
            rfl

end Hunk

/-- **The hunks of two lists** hold the changes between them and no others. -/
theorem hunks_changes [DecidableEq α] (old new : List α) :
    (hunks old new).flatMap Hunk.changes = (compare old new).filter Piece.isChange :=
  Hunk.gather_changes _ _

/-! ## Lines -/

variable {is : List Char → Bool} {oldName newName : String} {old new : List (List Char)}

theorem shown_any_iff (hsame : ∀ line, is (' ' :: line) = false) (p : Piece (List Char)) :
    p.shown.any is ↔ (∃ line ∈ p.removed, is ('-' :: line)) ∨ ∃ line ∈ p.added, is ('+' :: line) := by
  cases p with
  | same items => simp [Piece.shown, Piece.removed, Piece.added, hsame]
  | change removed added => simp [Piece.shown, Piece.removed, Piece.added]

theorem hunk_any_iff (hrange : ∀ line, is ('@' :: line) = false)
    (hsame : ∀ line, is (' ' :: line) = false) (h : Hunk (List Char)) : h.shown.any is ↔
      ∃ p ∈ h.changes, (∃ line ∈ p.removed, is ('-' :: line)) ∨ ∃ line ∈ p.added, is ('+' :: line) := by
  have hhead : ∀ s : String, is ("@@ -" ++ s).toList = false := by
    intro s
    rw [String.toList_append]
    exact hrange _
  unfold Hunk.shown
  rw [String.append_assoc, String.append_assoc, String.append_assoc, List.any_cons, hhead,
    Bool.false_or, List.any_flatMap, List.any_eq_true]
  constructor
  · rintro ⟨p, hp, hshown⟩
    have hline := (shown_any_iff hsame p).mp hshown
    refine ⟨p, List.mem_filter.mpr ⟨hp, ?_⟩, hline⟩
    cases p with
    | same items => rcases hline with ⟨_, hmem, -⟩ | ⟨_, hmem, -⟩ <;> cases hmem
    | change removed added => rfl
  · rintro ⟨p, hp, hline⟩
    exact ⟨p, (List.mem_filter.mp hp).1, (shown_any_iff hsame p).mpr hline⟩

/-- **The lines of a unified diff**: a property that neither the names of the texts nor the ranges nor
the shared lines have, some line has exactly if a removed or an added line has it. -/
theorem unified_any_iff (hold : is ("--- " ++ oldName).toList = false)
    (hnew : is ("+++ " ++ newName).toList = false) (hrange : ∀ line, is ('@' :: line) = false)
    (hsame : ∀ line, is (' ' :: line) = false) :
    (unified oldName newName old new).any is ↔ ∃ p ∈ compare old new,
      (∃ line ∈ p.removed, is ('-' :: line)) ∨ ∃ line ∈ p.added, is ('+' :: line) := by
  have hhunks : (unified oldName newName old new).any is ↔ ∃ h ∈ hunks old new, h.shown.any is := by
    unfold unified
    split
    · next hnone => simp [hnone]
    · rw [List.any_cons, List.any_cons, hold, hnew, Bool.false_or, Bool.false_or, List.any_flatMap,
        List.any_eq_true]
  rw [hhunks]
  constructor
  · rintro ⟨h, hh, hshown⟩
    obtain ⟨p, hp, hline⟩ := (hunk_any_iff hrange hsame h).mp hshown
    have hmem : p ∈ (hunks old new).flatMap Hunk.changes := List.mem_flatMap.mpr ⟨h, hh, hp⟩
    rw [hunks_changes] at hmem
    exact ⟨p, (List.mem_filter.mp hmem).1, hline⟩
  · rintro ⟨p, hp, hline⟩
    have hchange : p.isChange := by
      cases p with
      | same items => rcases hline with ⟨_, hmem, -⟩ | ⟨_, hmem, -⟩ <;> cases hmem
      | change removed added => rfl
    have hmem := List.mem_filter.mpr ⟨hp, hchange⟩
    rw [← hunks_changes] at hmem
    obtain ⟨h, hh, hp⟩ := List.mem_flatMap.mp hmem
    exact ⟨h, hh, (hunk_any_iff hrange hsame h).mpr ⟨p, hp, hline⟩⟩

/-- Lists that differ only in items that do not count agree in all others. -/
theorem compare_filter [DecidableEq α] {counts : α → Bool} {old new : List α}
    (h : ∀ p ∈ compare old new, (∀ x ∈ p.removed, counts x = false) ∧ ∀ x ∈ p.added, counts x = false) :
    old.filter counts = new.filter counts := by
  have hpieces : ∀ p ∈ compare old new, p.old.filter counts = p.new.filter counts := by
    intro p hp
    obtain ⟨hremoved, hadded⟩ := h p hp
    cases p with
    | same items => rfl
    | change removed added =>
      show removed.filter counts = added.filter counts
      rw [List.filter_eq_nil_iff.mpr (by simpa [Piece.removed] using hremoved),
        List.filter_eq_nil_iff.mpr (by simpa [Piece.added] using hadded)]
  calc old.filter counts = ((compare old new).flatMap Piece.old).filter counts := by rw [old_compare]
    _ = (compare old new).flatMap fun p => p.old.filter counts := List.filter_flatMap ..
    _ = (compare old new).flatMap fun p => p.new.filter counts := List.flatMap_congr hpieces
    _ = ((compare old new).flatMap Piece.new).filter counts := (List.filter_flatMap ..).symm
    _ = new.filter counts := by rw [new_compare]

end FolderTalk.Diff
