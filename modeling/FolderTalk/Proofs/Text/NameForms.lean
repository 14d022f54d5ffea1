import FolderTalk.Proofs.Text.Capitals
import FolderTalk.Proofs.Text.Words
import Mathlib

/-!
# The two forms of a name

Both forms are made of the words of a name and nothing else of it: the display form is the words, the
first one capitalised, with blanks between them (`toList_displayForm`), and the slug is the words in
small letters with hyphens between them (`toList_slug`). So both are normal forms (`forms_normal`).
-/

namespace FolderTalk

open Text
open Command (Solid Small Worded spaced)

namespace Text
variable {ws : List (List Char)}

/-- The words with the first one capitalised. -/
def capitalizeFirst : List (List Char) → List (List Char)
  | [] => []
  | w :: ws => capitalize w :: ws

theorem capitalize_append {u : List Char} (hu : u ≠ []) (v : List Char) :
    capitalize (u ++ v) = capitalize u ++ v := by
  cases u with
  | nil => exact absurd rfl hu
  | cons c u => exact (List.append_assoc ..).symm

theorem worded_capitalizeFirst (h : Worded ws) : Worded (capitalizeFirst ws) := by
  cases ws with
  | nil => exact h
  | cons w ws =>
    obtain ⟨⟨hne, hw⟩, hws⟩ := List.forall_mem_cons.mp h
    obtain ⟨c, w, rfl⟩ := List.exists_cons_of_ne_nil hne
    obtain ⟨hc, hw⟩ := List.forall_mem_cons.mp hw
    refine List.forall_mem_cons.mpr ⟨⟨List.append_ne_nil_of_left_ne_nil (upperChar_ne_nil c) _, ?_⟩, hws⟩
    exact List.forall_mem_append.mpr ⟨fun d hd => (isBlank_upperChar hd).trans hc, hw⟩

theorem capitalize_spaced (h : Worded ws) : capitalize (spaced ws) = spaced (capitalizeFirst ws) := by
  match ws with
  | [] => rfl
  | [_] => rfl
  | w :: v :: ws => exact capitalize_append (h w (List.mem_cons_self ..)).1 _

theorem capitalizeFirst_capitalizeFirst (ws : List (List Char)) :
    capitalizeFirst (capitalizeFirst ws) = capitalizeFirst ws := by
  cases ws with
  | nil => rfl
  | cons w ws => rw [capitalizeFirst, capitalizeFirst, capitalize_capitalize]

end Text

namespace Name

/-- The display form is made of the words of the name. -/
theorem toList_displayForm (name : String) :
    (displayForm name).toList = spaced (capitalizeFirst (words name.toList)) := by
  rw [displayForm, String.toList_ofList, squeeze_eq_intercalate (trimmed_trim _), words_trim,
    intercalate_eq_spaced, capitalize_spaced (worded_words _)]

/-- The slug is made of the words of the name. -/
theorem toList_slug (name : String) :
    (slug name).toList = ['-'].intercalate ((words name.toList).map lower) := by
  rw [slug, String.toList_ofList, squeeze_eq_intercalate (trimmed_trim _).lower, words_lower,
    words_trim]

theorem worded_displayForm (name : String) : Worded (capitalizeFirst (words name.toList)) :=
  worded_capitalizeFirst (worded_words _)

theorem displayForm_displayForm (name : String) :
    displayForm (displayForm name) = displayForm name := by
  apply String.toList_injective
  rw [toList_displayForm, toList_displayForm, words_spaced (worded_displayForm name),
    capitalizeFirst_capitalizeFirst]

theorem solid_slug (name : String) : Solid (slug name).toList := by
  rw [toList_slug]
  refine forall_mem_intercalate (by decide) fun w hw => ?_
  obtain ⟨u, hu, rfl⟩ := List.mem_map.mp hw
  exact solid_lowerFrom (worded_words _ u hu).2 []

theorem small_slug (name : String) : Small (slug name).toList := by
  rw [toList_slug]
  refine forall_mem_intercalate (by decide) fun w hw => ?_
  obtain ⟨u, _, rfl⟩ := List.mem_map.mp hw
  exact small_lower u

/-- A text in small letters without white space is its own slug. -/
theorem slug_eq_self {name : String} (hsolid : Solid name.toList) (hsmall : Small name.toList) :
    slug name = name := by
  apply String.toList_injective
  rw [toList_slug]
  by_cases hne : name.toList = []
  · rw [hne]
    rfl
  · rw [words_of_solid hne hsolid, List.map_singleton, lower_of_small hsmall,
      List.intercalate_singleton]

theorem slug_slug (name : String) : slug (slug name) = slug name :=
  slug_eq_self (solid_slug name) (small_slug name)

theorem displayForm_eq_of_words {name other : String}
    (h : words name.toList = words other.toList) : displayForm name = displayForm other := by
  apply String.toList_injective
  rw [toList_displayForm, toList_displayForm, h]

theorem slug_eq_of_words {name other : String} (h : words name.toList = words other.toList) :
    slug name = slug other := by
  apply String.toList_injective
  rw [toList_slug, toList_slug, h]

/-- **The forms of a name are normal forms.** The display form has no white space at its ends and none
inside but single blanks between its words, the slug has none at all, making either form once more
changes nothing, and names with the same words have the same forms. -/
theorem forms_normal (name other : String) :
    (Trimmed (displayForm name).toList ∧ SingleSpaced (displayForm name).toList ∧
        displayForm (displayForm name) = displayForm name) ∧
      (Solid (slug name).toList ∧ slug (slug name) = slug name) ∧
      (words name.toList = words other.toList →
        displayForm name = displayForm other ∧ slug name = slug other) := by
  refine ⟨⟨trimmed_displayForm name, ?_, displayForm_displayForm name⟩,
    ⟨solid_slug name, slug_slug name⟩, fun h => ⟨displayForm_eq_of_words h, slug_eq_of_words h⟩⟩
  rw [toList_displayForm]
  exact singleSpaced_spaced (worded_displayForm name)

/-- A letter that expands, a capital sigma at the end of a word, and white space of several kinds. -/
theorem forms_normal_sharp_s :
    let name := String.ofList ['\u3000', 'ß', 'x', '\t', '\u2003', 'Ο', 'Σ', '\n']
    let other := String.ofList ['ß', 'x', ' ', 'Ο', 'Σ']
    name ≠ other ∧ words name.toList = words other.toList ∧
      (displayForm name = displayForm other ∧ slug name = slug other) ∧
      (displayForm name).toList = ['S', 'S', 'x', ' ', 'Ο', 'Σ'] ∧
      (slug name).toList = ['ß', 'x', '-', 'ο', 'ς'] := by
  intro name other
  have hwords : words name.toList = words other.toList := by
    rw [String.toList_ofList, String.toList_ofList]
    decide +kernel
  refine ⟨fun h => ?_, hwords, (forms_normal name other).2.2 hwords, ?_, ?_⟩
  · have hlists := congrArg String.toList h
    rw [String.toList_ofList, String.toList_ofList] at hlists
    exact absurd hlists (by decide)
  · rw [toList_displayForm, String.toList_ofList]
    decide +kernel
  · rw [toList_slug, String.toList_ofList]
    decide +kernel

end Name

end FolderTalk
