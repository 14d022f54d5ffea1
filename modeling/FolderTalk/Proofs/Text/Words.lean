import FolderTalk.Proofs.Text.Trimmed
import Mathlib

/-!
# The words of a text

White space cuts a text into its words. Everything about them follows from two equations: a stretch
without white space is one word (`words_of_solid`), and what stands on the two sides of a white space
has its words apart (`words_append_blank`).

* `induction_blank` : induction along these two equations;
* `words_trim`, `squeeze_eq_intercalate` : trimming keeps the words, and a trimmed text that is
  squeezed is its words with the separator between them;
* `words_spaced` : words with one blank between any two of them are read back, and the text has no
  other white space (`singleSpaced_spaced`);
* `words_lower` : the words in small letters are the words of the small text. A sigma at the end of a
  word does not see beyond white space, which is neither cased nor passed over (`meetsCased_append`).
-/

namespace FolderTalk.Text

open Command (Solid Worded spaced)

variable {t u v w : List Char} {b sep : Char} {ws : List (List Char)}

/-! ## Cutting at white space -/

theorem wordsFrom_append_blank (hb : isBlank b) (word u v : List Char) :
    wordsFrom word (u ++ b :: v) = wordsFrom word u ++ words v := by
  induction u generalizing word with
  | nil =>
    rw [List.nil_append, wordsFrom, wordsFrom, if_pos hb]
    split <;> rfl
  | cons c u ih =>
    rw [List.cons_append, wordsFrom, wordsFrom]
    split
    · split
      · exact ih []
      · rw [ih [], List.cons_append]
    · exact ih (c :: word)

theorem words_append_blank (hb : isBlank b) (u v : List Char) :
    words (u ++ b :: v) = words u ++ words v := wordsFrom_append_blank hb [] u v

theorem wordsFrom_of_solid (h : Solid u) (word : List Char) :
    wordsFrom word u = wordsFrom (u.reverse ++ word) [] := by
  induction u generalizing word with
  | nil => rfl
  | cons c u ih =>
    obtain ⟨hc, hu⟩ := List.forall_mem_cons.mp h
    have hstep : wordsFrom word (c :: u) = wordsFrom (c :: word) u := by
      rw [wordsFrom, hc, if_neg Bool.false_ne_true]
    rw [hstep, ih hu, List.reverse_cons, List.append_assoc]
    rfl

theorem words_of_solid (hne : w ≠ []) (h : Solid w) : words w = [w] := by
  rw [words, wordsFrom_of_solid h, List.append_nil, wordsFrom, if_neg (by simpa using hne),
    List.reverse_reverse]

/-- A text is a stretch without white space, or has such a stretch before its first white space. -/
@[elab_as_elim]
theorem induction_blank {motive : List Char → Prop} (t : List Char)
    (solid : ∀ w, Solid w → motive w)
    (blank : ∀ w b v, isBlank b → motive w → motive v → motive (w ++ b :: v)) : motive t := by
  -- the stretch that is being read is in front of the text
  have key : ∀ t w, Solid w → motive (w ++ t) := by
    intro t
    induction t with
    | nil =>
      intro w hw
      rw [List.append_nil]
      exact solid w hw
    | cons c t ih =>
      intro w hw
      by_cases hc : isBlank c = true
      · exact blank w c t hc (solid w hw) (ih [] (List.forall_mem_nil _))
      · rw [List.append_cons]
        exact ih (w ++ [c]) (List.forall_mem_append.mpr
          ⟨hw, List.forall_mem_singleton.mpr (eq_false_of_ne_true hc)⟩)
  exact key t [] (List.forall_mem_nil _)

theorem worded_words (t : List Char) : Worded (words t) := by
  induction t using induction_blank with
  | solid w hw =>
    by_cases hne : w = []
    · rw [hne]
      exact List.forall_mem_nil _
    · rw [words_of_solid hne hw]
      exact List.forall_mem_singleton.mpr ⟨hne, hw⟩
  | blank w b v hb ihw ihv =>
    rw [words_append_blank hb]
    exact List.forall_mem_append.mpr ⟨ihw, ihv⟩

/-- Only texts of white space have no words. -/
theorem words_eq_nil_iff : words t = [] ↔ ∀ c ∈ t, isBlank c = true := by
  induction t using induction_blank with
  | solid w hw =>
    cases w with
    | nil => exact ⟨fun _ => List.forall_mem_nil _, fun _ => rfl⟩
    | cons c w =>
      rw [words_of_solid (List.cons_ne_nil c w) hw]
      refine ⟨fun h => absurd h (List.cons_ne_nil _ _), fun h => ?_⟩
      have hc := hw c (List.mem_cons_self ..)
      rw [h c (List.mem_cons_self ..)] at hc
      cases hc
  | blank w b v hb ihw ihv =>
    rw [words_append_blank hb, List.append_eq_nil_iff, ihw, ihv, List.forall_mem_append,
      List.forall_mem_cons]
    exact and_congr_right' (iff_and_self.mpr fun _ => hb)

theorem words_ne_nil (hne : t ≠ []) (hlast : ∀ c ∈ t.getLast?, isBlank c = false) :
    words t ≠ [] := by
  intro hnil
  have hblank := words_eq_nil_iff.mp hnil (t.getLast hne) (List.getLast_mem hne)
  rw [hlast _ (List.getLast?_eq_some_getLast hne)] at hblank
  cases hblank

theorem words_blanks_append (hu : ∀ c ∈ u, isBlank c = true) (t : List Char) :
    words (u ++ t) = words t := by
  induction u with
  | nil => rfl
  | cons c u ih =>
    obtain ⟨hc, hu⟩ := List.forall_mem_cons.mp hu
    exact (words_append_blank hc [] (u ++ t)).trans (ih hu)

theorem words_append_blanks (hv : ∀ c ∈ v, isBlank c = true) (t : List Char) :
    words (t ++ v) = words t := by
  cases v with
  | nil => rw [List.append_nil]
  | cons c v =>
    obtain ⟨hc, hv⟩ := List.forall_mem_cons.mp hv
    rw [words_append_blank hc, words_eq_nil_iff.mpr hv, List.append_nil]

/-- Trimming keeps the words. -/
@[simp] theorem words_trim (t : List Char) : words (trim t) = words t := by
  have hend : words (trim t) = words (trimStart t) := by
    rw [← words_append_blanks (v := (trimStart t).rtakeWhile isBlank)
      (fun c hc => List.mem_rtakeWhile_imp hc) (trim t)]
    exact congrArg words List.rdropWhile_append_rtakeWhile
  have hstart : words (trimStart t) = words t := by
    rw [← words_blanks_append (u := t.takeWhile isBlank) (fun c hc => List.mem_takeWhile_imp hc)]
    exact congrArg words List.takeWhile_append_dropWhile
  rw [hend, hstart]

/-! ## Words with a separator between them -/

/-- Squeezing behind the word that is being read; inside a run of white space no word is. -/
theorem squeezeFrom_eq_intercalate (word : List Char) (h : ∀ c ∈ t.getLast?, isBlank c = false) :
    word.reverse ++ squeezeFrom sep word.isEmpty t = [sep].intercalate (wordsFrom word t) := by
  induction t generalizing word with
  | nil =>
    rw [squeezeFrom, List.append_nil, wordsFrom]
    cases word <;> simp
  | cons c t ih =>
    have hlast := last_tail h
    by_cases hc : isBlank c = true
    · have hne : t ≠ [] := by
        rintro rfl
        rw [h c rfl] at hc
        cases hc
      have hrest := ih [] hlast
      rw [squeezeFrom, if_pos hc, wordsFrom, if_pos hc]
      cases word with
      | nil => exact hrest
      | cons e word =>
        -- the text does not end here, so a word is still to come
        obtain ⟨next, later, hnext⟩ := List.exists_cons_of_ne_nil (words_ne_nil hne hlast)
        rw [words] at hnext
        rw [hnext] at hrest
        rw [if_neg (by simp), if_neg (by simp), hnext, List.intercalate_cons_cons, ← hrest,
          List.append_assoc]
        rfl
    · rw [squeezeFrom, if_neg hc, wordsFrom, if_neg hc, ← ih (c :: word) hlast, List.reverse_cons,
        List.append_assoc]
      rfl

/-- **A trimmed text that is squeezed** is its words with the separator between them. -/
theorem squeeze_eq_intercalate (h : Trimmed t) : squeeze sep t = [sep].intercalate (words t) := by
  rw [words, ← squeezeFrom_eq_intercalate [] h.last, squeeze]
  cases t with
  | nil => rfl
  | cons c t =>
    have hc := h.first c rfl
    rw [squeezeFrom_cons_of_not_blank hc, List.reverse_nil, List.nil_append,
      squeezeFrom_cons_of_not_blank hc]

theorem intercalate_eq_spaced (ws : List (List Char)) : [' '].intercalate ws = spaced ws := by
  induction ws with
  | nil => rfl
  | cons w ws ih =>
    cases ws with
    | nil => exact List.intercalate_singleton
    | cons v ws =>
      rw [List.intercalate_cons_cons, ih, spaced, List.append_assoc]
      rfl

/-- What holds for the separator and in all words holds in the text that they make. -/
theorem forall_mem_intercalate {p : Char → Prop} (hsep : p sep) (hws : ∀ w ∈ ws, ∀ c ∈ w, p c) :
    ∀ c ∈ [sep].intercalate ws, p c := by
  induction ws with
  | nil =>
    intro c hc
    cases hc
  | cons w ws ih =>
    obtain ⟨hw, hws⟩ := List.forall_mem_cons.mp hws
    cases ws with
    | nil => rwa [List.intercalate_singleton]
    | cons v ws =>
      rw [List.intercalate_cons_cons, List.forall_mem_append, List.forall_mem_append]
      exact ⟨⟨hw, List.forall_mem_singleton.mpr hsep⟩, ih hws⟩

/-- Words with blanks between them are read back. -/
theorem words_spaced (h : Worded ws) : words (spaced ws) = ws := by
  induction ws with
  | nil => rfl
  | cons w ws ih =>
    obtain ⟨⟨hne, hw⟩, hws⟩ := List.forall_mem_cons.mp h
    cases ws with
    | nil => exact words_of_solid hne hw
    | cons v ws =>
      rw [spaced, words_append_blank (by decide), words_of_solid hne hw, ih hws]
      rfl

/-- The only white space is single blanks, each with something else on either side. -/
def SingleSpaced (t : List Char) : Prop :=
  ∀ before b after, t = before ++ b :: after → isBlank b →
    b = ' ' ∧ (∃ c ∈ before.getLast?, isBlank c = false) ∧ ∃ c ∈ after.head?, isBlank c = false

theorem spaced_ne_nil (h : Worded ws) (hne : ws ≠ []) : spaced ws ≠ [] := by
  intro hnil
  have hwords := words_spaced h
  rw [hnil] at hwords
  exact hne hwords.symm

theorem trimmed_spaced (h : Worded ws) : Trimmed (spaced ws) :=
  ⟨Command.head_spaced h, Command.getLast_spaced h⟩

theorem singleSpaced_spaced (h : Worded ws) : SingleSpaced (spaced ws) := by
  intro before b after heq hb
  obtain ⟨us, vs, hus, hvs, rfl, rfl, rfl⟩ := Command.eq_of_blank h.solid hb heq
  obtain ⟨hu, hv⟩ := List.forall_mem_append.mp h
  rw [Command.spaced_append hus hvs, List.append_cancel_left_eq] at heq
  have hlast := List.getLast?_eq_some_getLast (spaced_ne_nil hu hus)
  have hfirst := List.head?_eq_some_head (spaced_ne_nil hv hvs)
  exact ⟨(List.cons.inj heq).1.symm, ⟨_, hlast, (trimmed_spaced hu).last _ hlast⟩,
    _, hfirst, (trimmed_spaced hv).first _ hfirst⟩

/-! ## Words in small letters -/

/-- What can be tried for each code point of white space. -/
theorem forall_blank {p : Char → Bool}
    (h : blankRanges.all fun r => (List.range' r.1 (r.2 + 1 - r.1)).all fun n => p (Char.ofNat n))
    (hb : isBlank b) : p b = true := by
  obtain ⟨r, hr, hlow, hhigh⟩ := isBlank_iff.mp hb
  have hcodes := List.all_eq_true.mp (List.all_eq_true.mp h r hr) b.toNat
    (List.mem_range'_1.mpr (by omega))
  rwa [Char.ofNat_toNat] at hcodes

theorem uncased_of_blank (hb : isBlank b) : isCased b = false ∧ isCaseIgnorable b = false := by
  have h := forall_blank (p := fun c => !isCased c && !isCaseIgnorable c) (by decide +kernel) hb
  simpa using h

theorem lower_of_blank (hb : isBlank b) : b ≠ 'Σ' ∧ lowerChar b = [b] := by
  have h := forall_blank (p := fun c => c != 'Σ' && lowerChar c == [c]) (by decide +kernel) hb
  simpa using h

/-- What a sigma sees ends at white space. -/
theorem meetsCased_append (hb : isBlank b) (w before : List Char) :
    meetsCased (w ++ b :: before) = meetsCased w := by
  obtain ⟨hcased, hignorable⟩ := uncased_of_blank hb
  induction w with
  | nil =>
    rw [List.nil_append, meetsCased, meetsCased, hignorable, if_neg Bool.false_ne_true, hcased]
  | cons c w ih => rw [List.cons_append, meetsCased, meetsCased, ih]

theorem lowerFrom_before_append (hb : isBlank b) (w before t : List Char) :
    lowerFrom (w ++ b :: before) t = lowerFrom w t := by
  induction t generalizing w with
  | nil => rfl
  | cons c t ih => rw [lowerFrom, lowerFrom, meetsCased_append hb, ← List.cons_append, ih (c :: w)]

theorem lowerFrom_append_blank (hb : isBlank b) (before u v : List Char) :
    lowerFrom before (u ++ b :: v) = lowerFrom before u ++ b :: lower v := by
  obtain ⟨hsigma, hsmall⟩ := lower_of_blank hb
  induction u generalizing before with
  | nil =>
    rw [List.nil_append, lowerFrom, lowerFrom, if_neg (by simpa using hsigma), hsmall]
    exact congrArg (b :: ·) (lowerFrom_before_append hb [] before v)
  | cons c u ih =>
    rw [List.cons_append, lowerFrom, lowerFrom, meetsCased_append hb, ih, List.append_assoc]

theorem solid_lowerFrom (h : Solid t) (before : List Char) : Solid (lowerFrom before t) := by
  induction t generalizing before with
  | nil => exact List.forall_mem_nil _
  | cons c t ih =>
    obtain ⟨hc, ht⟩ := List.forall_mem_cons.mp h
    obtain ⟨piece, _, hpiece, hlower⟩ := lowerFrom_cons before t c
    rw [hlower]
    exact List.forall_mem_append.mpr ⟨fun d hd => (hpiece d hd).trans hc, ih ht (c :: before)⟩

theorem lower_ne_nil (h : t ≠ []) : lower t ≠ [] := by
  have hlen := Command.length_le_length_lowerFrom t []
  have hpos := List.length_pos_of_ne_nil h
  exact List.ne_nil_of_length_pos (Nat.lt_of_lt_of_le hpos hlen)

/-- **The words of the small text** are the words in small letters, one by one. -/
theorem words_lower (t : List Char) : words (lower t) = (words t).map lower := by
  induction t using induction_blank with
  | solid w hw =>
    by_cases hne : w = []
    · rw [hne]
      rfl
    · rw [words_of_solid hne hw, words_of_solid (lower_ne_nil hne) (solid_lowerFrom hw [])]
      rfl
  | blank w b v hb ihw ihv =>
    rw [lower, lowerFrom_append_blank hb, words_append_blank hb, words_append_blank hb,
      List.map_append, ← ihw, ← ihv]
    rfl

end FolderTalk.Text
