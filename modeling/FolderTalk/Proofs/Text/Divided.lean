import FolderTalk.Text.Stretch
import Mathlib.Data.List.Basic

/-!
# Texts divided at a mark

A text that is divided at each occurrence of a single character is put together again from its
parts, and a text put together from two is divided into the parts of both.
-/

namespace FolderTalk.Text

variable (mark : Char)

theorem divideFrom_cons (part : List Char) (c : Char) (cs : List Char) :
    divideFrom [mark] 0 part (c :: cs) =
      if mark = c then part.reverse :: divideFrom [mark] 0 [] cs
      else divideFrom [mark] 0 (c :: part) cs := by
  rw [divideFrom]
  simp

theorem divideFrom_append (part cs ds : List Char) :
    divideFrom [mark] 0 part (cs ++ mark :: ds) =
      divideFrom [mark] 0 part cs ++ divideFrom [mark] 0 [] ds := by
  induction cs generalizing part with
  | nil =>
    rw [List.nil_append, divideFrom_cons, if_pos rfl]
    rfl
  | cons c cs ih =>
    rw [List.cons_append, divideFrom_cons, divideFrom_cons, ih, ih]
    split <;> rfl

theorem divideFrom_ne_nil (part cs : List Char) : divideFrom [mark] 0 part cs ≠ [] := by
  induction cs generalizing part with
  | nil => exact List.cons_ne_nil _ _
  | cons c cs ih =>
    rw [divideFrom_cons]
    split
    · exact List.cons_ne_nil _ _
    · exact ih _

theorem intercalate_divideFrom (part cs : List Char) :
    [mark].intercalate (divideFrom [mark] 0 part cs) = part.reverse ++ cs := by
  induction cs generalizing part with
  | nil => simp [divideFrom]
  | cons c cs ih =>
    rw [divideFrom_cons]
    split
    · next hc =>
      have hrest := ih []
      obtain ⟨first, rest, hparts⟩ := List.exists_cons_of_ne_nil (divideFrom_ne_nil mark [] cs)
      rw [hparts] at hrest ⊢
      rw [List.intercalate_cons_cons, hrest, hc]
      simp
    · rw [ih]
      simp

/-! ## Dotted texts -/

theorem divide_ne_nil (s : String) : divide "." s ≠ [] :=
  fun h => divideFrom_ne_nil '.' [] s.toList (List.map_eq_nil_iff.mp h)

/-- The parts of two texts with the mark between them are those of the first and those of the
second. -/
theorem divide_append (s t : String) : divide "." (s ++ "." ++ t) = divide "." s ++ divide "." t := by
  have hlist : (s ++ "." ++ t).toList = s.toList ++ '.' :: t.toList := by simp
  rw [divide, hlist]
  show (divideFrom ['.'] 0 [] _).map _ = _
  rw [divideFrom_append, List.map_append]
  rfl

/-- The parts of a text put it together again. -/
theorem intercalate_divide (s : String) : ".".intercalate (divide "." s) = s := by
  apply String.toList_injective
  have hparts : (divide "." s).map String.toList = divideFrom ['.'] 0 [] s.toList := by
    rw [divide, List.map_map]
    exact (List.map_congr_left fun cs _ => String.toList_ofList).trans (List.map_id _)
  rw [String.toList_intercalate, hparts]
  exact intercalate_divideFrom '.' [] s.toList

theorem divide_injective {s t : String} (h : divide "." s = divide "." t) : s = t := by
  rw [← intercalate_divide s, h, intercalate_divide]

end FolderTalk.Text
