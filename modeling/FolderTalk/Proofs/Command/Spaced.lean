import FolderTalk.Command.Recognise
import Mathlib.Data.List.Basic

/-!
# Words with one blank between them

* `spaced` : a text made of words; its only blanks are the ones between two words
  (`eq_of_blank`), so what stands between two blanks, or between the beginning and the first blank,
  is one of the words (`mem_of_between`, `head_eq_of_blank_after`), and what stands before a blank
  ends a word (`suffix_of_blank_after`);
* `Small` : a text of characters that have no smaller form; commands of such characters are their
  own normal form (`normalise_eq`).
-/

namespace FolderTalk.Command

open Text

/-- The words with one blank between any two of them. -/
def spaced : List (List Char) → List Char
  | [] => []
  | [w] => w
  | w :: v :: ws => w ++ ' ' :: spaced (v :: ws)

/-- A text without white space. -/
def Solid (w : List Char) : Prop := ∀ c ∈ w, isBlank c = false

instance : DecidablePred Solid := fun w => List.decidableBAll _ w

theorem spaced_cons {ws : List (List Char)} (w : List Char) (h : ws ≠ []) :
    spaced (w :: ws) = w ++ ' ' :: spaced ws := by
  cases ws with
  | nil => exact absurd rfl h
  | cons v ws => rfl

theorem spaced_append {us vs : List (List Char)} (hu : us ≠ []) (hv : vs ≠ []) :
    spaced (us ++ vs) = spaced us ++ ' ' :: spaced vs := by
  induction us with
  | nil => exact absurd rfl hu
  | cons w us ih =>
    cases us with
    | nil => exact spaced_cons w hv
    | cons v us =>
      rw [List.cons_append, spaced_cons w (by simp), ih (by simp), spaced_cons w (by simp),
        List.append_assoc, List.cons_append]

/-! ## Where the blanks are -/

section Blanks
variable {ws : List (List Char)} {b : Char}

/-- Every blank of the text separates two words. -/
theorem eq_of_blank (hws : ∀ w ∈ ws, Solid w) (hb : isBlank b) {before after : List Char}
    (h : spaced ws = before ++ b :: after) :
    ∃ us vs, us ≠ [] ∧ vs ≠ [] ∧ ws = us ++ vs ∧ before = spaced us ∧ after = spaced vs := by
  induction ws generalizing before with
  | nil => simp [spaced] at h
  | cons w ws ih =>
    obtain ⟨hw, hws⟩ := List.forall_mem_cons.mp hws
    have hnot : ∀ e d, w ≠ e ++ b :: d := by
      rintro e d rfl
      rw [hw b (by simp)] at hb
      cases hb
    cases ws with
    | nil => exact absurd h (hnot before after)
    | cons v ws =>
      rw [spaced] at h
      rcases List.append_eq_append_iff.mp h with ⟨e, hbefore, hrest⟩ | ⟨e, hword, hrest⟩
      · cases e with
        | nil =>
          obtain ⟨_, hafter⟩ := List.cons.inj hrest
          exact ⟨[w], v :: ws, by simp, by simp, rfl, by rw [hbefore, List.append_nil]; rfl,
            hafter.symm⟩
        | cons c e =>
          obtain ⟨hblank, hrest⟩ := List.cons.inj hrest
          obtain ⟨us, vs, hus, hvs, heq, he, hafter⟩ := ih hws hrest
          refine ⟨w :: us, vs, by simp, hvs, by rw [heq, List.cons_append], ?_, hafter⟩
          rw [hbefore, spaced_cons w hus, he, hblank]
      · cases e with
        | nil =>
          obtain ⟨_, hafter⟩ := List.cons.inj hrest
          exact ⟨[w], v :: ws, by simp, by simp, rfl, by rw [hword, List.append_nil]; rfl, hafter⟩
        | cons c e =>
          obtain ⟨rfl, _⟩ := List.cons.inj hrest
          exact absurd hword (hnot before e)

/-- What the text begins with, up to a blank, is its first word. -/
theorem head_eq_of_blank_after (hws : ∀ w ∈ ws, Solid w) {k after : List Char} (hk : Solid k)
    (hb : isBlank b) (h : spaced ws = k ++ b :: after) : ws.head? = some k := by
  obtain ⟨us, vs, hus, _, rfl, hk', _⟩ := eq_of_blank hws hb h
  cases us with
  | nil => exact absurd rfl hus
  | cons u us =>
    cases us with
    | nil => rw [hk', spaced]; rfl
    | cons v us =>
      rw [hk', spaced] at hk
      exact absurd (hk ' ' (by simp)) (by decide)

/-- What stands between two blanks is a word, and not the first one. -/
theorem mem_of_between (hws : ∀ w ∈ ws, Solid w) {before k after : List Char} {c : Char}
    (hk : Solid k) (hb : isBlank b) (hc : isBlank c)
    (h : spaced ws = before ++ b :: (k ++ c :: after)) : k ∈ ws.tail := by
  obtain ⟨us, vs, hus, _, rfl, _, hafter⟩ := eq_of_blank hws hb h
  have hhead := head_eq_of_blank_after (fun w hw => hws w (List.mem_append_right _ hw)) hk hc
    hafter.symm
  rw [List.tail_append_of_ne_nil hus]
  exact List.mem_append_right _ (List.mem_of_head? hhead)

/-- What stands before a blank ends a word. -/
theorem suffix_of_blank_after (hws : ∀ w ∈ ws, Solid w) {before k after : List Char} (hk : Solid k)
    (hb : isBlank b) (h : spaced ws = before ++ k ++ b :: after) : ∃ w ∈ ws, k <:+ w := by
  obtain ⟨us, vs, hus, _, rfl, hbefore, _⟩ := eq_of_blank hws hb h
  obtain ⟨us, u, rfl⟩ : ∃ init last, us = init ++ [last] := by
    rcases List.eq_nil_or_concat us with rfl | ⟨init, last, hconcat⟩
    · exact absurd rfl hus
    · exact ⟨init, last, hconcat.trans (List.concat_eq_append ..)⟩
  refine ⟨u, by simp, ?_⟩
  cases us with
  | nil => exact ⟨before, hbefore⟩
  | cons v us =>
    rw [spaced_append (by simp) (by simp)] at hbefore
    have hsuffix : k <:+ spaced (v :: us) ++ ' ' :: u := ⟨before, hbefore⟩
    rcases List.suffix_or_suffix_of_suffix hsuffix (List.suffix_append _ _) with h | h
    · rcases List.suffix_cons_iff.mp h with rfl | h
      · exact absurd (hk ' ' (by simp)) (by decide)
      · exact h
    · exact absurd (hk ' ' (h.mem (by simp))) (by decide)

end Blanks

/-! ## Small letters and ends without blanks -/

/-- A text of characters that lowering leaves alone wherever they stand. -/
def Small (t : List Char) : Prop := ∀ c ∈ t, c ≠ 'Σ' ∧ lowerChar c = [c]

instance : DecidablePred Small := fun t => List.decidableBAll _ t

theorem small_append {u v : List Char} : Small (u ++ v) ↔ Small u ∧ Small v := List.forall_mem_append

theorem lowerFrom_eq_self {t : List Char} (h : Small t) (before : List Char) :
    lowerFrom before t = t := by
  induction t generalizing before with
  | nil => rfl
  | cons c cs ih =>
    obtain ⟨⟨hsigma, hc⟩, hcs⟩ := List.forall_mem_cons.mp h
    rw [lowerFrom, if_neg (by simpa using hsigma), hc, ih hcs]
    rfl

theorem length_lowerChar_pos (c : Char) : 0 < (lowerChar c).length := by
  unfold lowerChar
  split
  · exact Nat.one_pos
  · split <;> simp

theorem length_le_length_lowerFrom (t before : List Char) :
    t.length ≤ (lowerFrom before t).length := by
  induction t generalizing before with
  | nil => exact Nat.le_refl _
  | cons c cs ih =>
    have hsmall := length_lowerChar_pos c
    have hrest := ih (c :: before)
    rw [lowerFrom, List.length_append]
    split <;> simp only [List.length_cons, List.length_nil] <;> omega

/-- Lowering leaves alone only texts that it leaves alone character by character. -/
theorem small_of_lowerFrom_eq {t before : List Char} (h : lowerFrom before t = t) : Small t := by
  induction t generalizing before with
  | nil => exact List.forall_mem_nil _
  | cons c cs ih =>
    rw [lowerFrom] at h
    have hlen := congrArg List.length h
    have hrest := length_le_length_lowerFrom cs (c :: before)
    rw [List.length_append, List.length_cons] at hlen
    split at h
    · next hsigma =>
      obtain ⟨hhead, _⟩ := List.cons.inj h
      rw [beq_iff_eq.mp hsigma] at hhead
      split at hhead
      · exact absurd hhead (by decide)
      · exact absurd hhead (by decide)
    · next hsigma =>
      rw [if_neg hsigma] at hlen
      cases hc : lowerChar c with
      | nil => exact absurd (length_lowerChar_pos c) (by simp [hc])
      | cons d ds =>
        rw [hc, List.cons_append] at h
        rw [hc, List.length_cons] at hlen
        have hds : ds = [] := List.eq_nil_of_length_eq_zero (by omega)
        obtain ⟨rfl, hcs⟩ := List.cons.inj h
        rw [hds, List.nil_append] at hcs
        refine List.forall_mem_cons.mpr ⟨⟨by simpa using hsigma, ?_⟩, ih hcs⟩
        rw [hc, hds]

theorem small_of_lower_eq {t : List Char} (h : lower t = t) : Small t := small_of_lowerFrom_eq h

theorem trim_eq_self {t : List Char} (hfirst : ∀ c ∈ t.head?, isBlank c = false)
    (hlast : ∀ c ∈ t.getLast?, isBlank c = false) : trim t = t := by
  have hstart : ∀ u : List Char, (∀ c ∈ u.head?, isBlank c = false) → trimStart u = u := by
    intro u hu
    cases u with
    | nil => rfl
    | cons c u => rw [trimStart, List.dropWhile_cons_of_neg (by simp [hu c rfl])]
  rw [trim, hstart t hfirst, trimEnd, hstart t.reverse (by rwa [List.head?_reverse]),
    List.reverse_reverse]

/-! ## Texts of words that are in normal form -/

/-- Words that a text can be cut into at its blanks. -/
def Worded (ws : List (List Char)) : Prop := ∀ w ∈ ws, w ≠ [] ∧ Solid w

theorem Worded.solid {ws : List (List Char)} (h : Worded ws) : ∀ w ∈ ws, Solid w :=
  fun w hw => (h w hw).2

theorem head_spaced {ws : List (List Char)} (h : Worded ws) :
    ∀ c ∈ (spaced ws).head?, isBlank c = false := by
  intro c hc
  match ws with
  | [] => cases hc
  | [w] => exact (h w (by simp)).2 c (List.mem_of_head? hc)
  | w :: v :: ws =>
    obtain ⟨hne, hsolid⟩ := h w (by simp)
    rw [spaced, List.head?_append_of_ne_nil _ hne] at hc
    exact hsolid c (List.mem_of_head? hc)

theorem getLast_spaced {ws : List (List Char)} (h : Worded ws) :
    ∀ c ∈ (spaced ws).getLast?, isBlank c = false := by
  induction ws with
  | nil => intro c hc; cases hc
  | cons w ws ih =>
    obtain ⟨hw, hws⟩ := List.forall_mem_cons.mp h
    intro c hc
    cases ws with
    | nil => exact hw.2 c (List.mem_of_getLast? hc)
    | cons v ws =>
      have hne : spaced (v :: ws) ≠ [] := by
        cases ws with
        | nil => exact (h v (by simp)).1
        | cons u ws => simp [spaced]
      refine ih hws c ?_
      rwa [spaced, List.getLast?_append_of_ne_nil _ (by simp),
        List.getLast?_cons_of_ne_nil hne] at hc

theorem small_spaced {ws : List (List Char)} (h : ∀ w ∈ ws, Small w) : Small (spaced ws) := by
  induction ws with
  | nil => exact List.forall_mem_nil _
  | cons w ws ih =>
    obtain ⟨hw, hws⟩ := List.forall_mem_cons.mp h
    cases ws with
    | nil => exact hw
    | cons v ws =>
      rw [spaced]
      exact small_append.mpr ⟨hw, List.forall_mem_cons.mpr ⟨by decide, ih hws⟩⟩

/-- **A text of words in small letters is its own normal form.** -/
theorem normalise_eq {ws : List (List Char)} (hws : Worded ws) (hsmall : ∀ w ∈ ws, Small w) :
    normalise (String.ofList (spaced ws)) = spaced ws := by
  rw [normalise, String.toList_ofList, lower, lowerFrom_eq_self (small_spaced hsmall),
    trim_eq_self (head_spaced hws) (getLast_spaced hws)]

end FolderTalk.Command
