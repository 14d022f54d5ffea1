import Mathlib.Data.List.Basic

/-!
# Looking up in a list of pairs

A key is looked up as the first pair that has it. A value is put under a key in the place of the one
that is there, or at the end.
-/

namespace FolderTalk

variable {α β : Type} [BEq α] [LawfulBEq α] {l : List (α × β)} {a a' : α} {b : β}

/-- A value in the place of the one that is there. -/
theorem lookup_replace_self (h : (l.lookup a).isSome) :
    (l.map fun e => if e.1 == a then (a, b) else e).lookup a = some b := by
  induction l with
  | nil => cases h
  | cons e l ih =>
    obtain ⟨k, old⟩ := e
    by_cases hk : k = a
    · simp [hk]
    · have hne : (a == k) = false := by simpa using Ne.symm hk
      rw [List.lookup_cons, hne] at h
      rw [List.map_cons, if_neg (by simpa using hk), List.lookup_cons, hne]
      exact ih h

theorem lookup_replace_other (h : a' ≠ a) :
    (l.map fun e => if e.1 == a then (a, b) else e).lookup a' = l.lookup a' := by
  have hne : (a' == a) = false := by simpa using h
  induction l with
  | nil => rfl
  | cons e l ih =>
    obtain ⟨k, old⟩ := e
    rw [List.map_cons]
    by_cases hk : k = a
    · rw [if_pos (by simpa using hk), List.lookup_cons, List.lookup_cons, ih, hk, hne]
    · rw [if_neg (by simpa using hk), List.lookup_cons, List.lookup_cons, ih]

/-- A value at the end, when there was none. -/
theorem lookup_concat_self (h : l.lookup a = none) : (l ++ [(a, b)]).lookup a = some b := by
  rw [List.lookup_append, h]
  simp

theorem lookup_concat_other (h : a' ≠ a) : (l ++ [(a, b)]).lookup a' = l.lookup a' := by
  rw [List.lookup_append, List.lookup_cons, show (a' == a) = false by simpa using h]
  simp

/-- What becomes of a key when only some keys are kept. -/
theorem lookup_filter (keep : α → Bool) :
    (l.filter fun e => keep e.1).lookup a = if keep a then l.lookup a else none := by
  induction l with
  | nil => simp
  | cons e l ih =>
    obtain ⟨k, b⟩ := e
    by_cases hk : a = k
    · subst hk
      by_cases hkeep : keep a
      · rw [List.filter_cons, if_pos hkeep, if_pos hkeep, List.lookup_cons, List.lookup_cons]
        simp
      · rw [List.filter_cons, if_neg hkeep, ih, if_neg hkeep, if_neg hkeep]
    · have hne : (a == k) = false := by simpa using hk
      rw [List.filter_cons, List.lookup_cons, hne, ← ih]
      split
      · rw [List.lookup_cons, hne]
      · rfl

end FolderTalk
