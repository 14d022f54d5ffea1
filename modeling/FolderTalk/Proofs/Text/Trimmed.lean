import FolderTalk.Name
import FolderTalk.Proofs.Command.Spaced
import Mathlib

/-!
# Texts without white space at their ends

* `isBlank_lowerChar`, `isBlank_upperChar` : no case mapping makes white space or takes it away;
* `Trimmed` : a text whose first and last characters are no white space; trimming gives such a text,
  and squeezing, capitals and small letters keep it so;
* `Name.strip_toLower_displayForm` : so the small form of a display form is what a lookup of it
  looks for.
-/

namespace FolderTalk

namespace Text

/-! ## Case mappings and white space -/

/-- The code points of white space, as closed ranges. -/
def blankRanges : List (Nat × Nat) :=
  [(9, 13), (28, 32), (0x85, 0x85), (0xa0, 0xa0), (0x1680, 0x1680), (0x2000, 0x200a),
   (0x2028, 0x2029), (0x202f, 0x202f), (0x205f, 0x205f), (0x3000, 0x3000)]

theorem isBlank_iff {c : Char} :
    isBlank c = true ↔ ∃ r ∈ blankRanges, r.1 ≤ c.toNat ∧ c.toNat ≤ r.2 := by
  simp only [isBlank, blankRanges, List.exists_mem_cons_iff, List.not_mem_nil, false_and, exists_false,
    or_false, Bool.or_eq_true, Bool.and_eq_true, decide_eq_true_eq, beq_iff_eq]
  omega

/-- Neither the characters of the run nor those that it maps them to are white space. -/
def CaseRun.AvoidsBlanks (r : CaseRun) : Prop :=
  ∀ b ∈ blankRanges, (r.last < b.1 ∨ b.2 < r.first) ∧
    ((r.last : Int) + r.shift < b.1 ∨ (b.2 : Int) < r.first + r.shift)

instance : DecidablePred CaseRun.AvoidsBlanks := fun _ => List.decidableBAll _ _

theorem runs_avoidBlanks :
    (∀ r ∈ lowerRuns, r.AvoidsBlanks) ∧ ∀ r ∈ upperRuns, r.AvoidsBlanks := by decide +kernel

theorem upperExpansions_solid : ∀ e ∈ upperExpansions, e.2 ≠ [] ∧
    isBlank (Char.ofNat e.1) = false ∧ ∀ n ∈ e.2, isBlank (Char.ofNat n) = false := by decide +kernel

theorem isBlank_ofNat {n : Nat} (h : isBlank (Char.ofNat n) = true) :
    ∃ r ∈ blankRanges, r.1 ≤ n ∧ n ≤ r.2 := by
  obtain ⟨r, hr, hlow, hhigh⟩ := isBlank_iff.mp h
  rw [Char.toNat_ofNat] at hlow hhigh
  split at hlow
  · next hvalid =>
    rw [if_pos hvalid] at hhigh
    exact ⟨r, hr, hlow, hhigh⟩
  · have hpos : ∀ r ∈ blankRanges, 0 < r.1 := by decide
    have := hpos r hr
    omega

theorem isBlank_shiftCase {runs : List CaseRun} (hruns : ∀ r ∈ runs, r.AvoidsBlanks) (c : Char) :
    isBlank (shiftCase runs c) = isBlank c := by
  unfold shiftCase
  split
  · next r hfound =>
    have havoids := hruns r (List.mem_of_find?_eq_some hfound)
    have hcontains : r.first ≤ c.toNat ∧ c.toNat ≤ r.last := by
      have hfound := List.find?_some hfound
      simp only [CaseRun.contains, Bool.and_eq_true, decide_eq_true_eq] at hfound
      exact hfound.1
    have hsource : isBlank c = false := by
      by_contra hblank
      obtain ⟨b, hb, hlow, hhigh⟩ := isBlank_iff.mp (eq_true_of_ne_false hblank)
      have := (havoids b hb).1
      omega
    have htarget : isBlank (Char.ofNat (c.toNat + r.shift).toNat) = false := by
      by_contra hblank
      obtain ⟨b, hb, hlow, hhigh⟩ := isBlank_ofNat (eq_true_of_ne_false hblank)
      have hpos : ∀ b ∈ blankRanges, 0 < b.1 := by decide
      have := (havoids b hb).2
      have := hpos b hb
      omega
    rw [htarget, hsource]
  · rfl

theorem isBlank_eq_false {c : Char} (hlow : 33 ≤ c.toNat) (hhigh : c.toNat < 128) :
    isBlank c = false := by
  by_contra hblank
  obtain ⟨r, hr, hfirst, hlast⟩ := isBlank_iff.mp (eq_true_of_ne_false hblank)
  have hranges : ∀ r ∈ blankRanges, r.2 < 33 ∨ 128 ≤ r.1 := by decide
  have := hranges r hr
  omega

/-- A shift inside ASCII that leads from visible characters to visible characters. -/
theorem isBlank_ofNat_eq {c : Char} {n : Nat} (hlow : 33 ≤ c.toNat) (hhigh : c.toNat < 128)
    (hn : 33 ≤ n) (hn' : n < 128) : isBlank (Char.ofNat n) = isBlank c := by
  have hvalid : n.isValidChar := Or.inl (by omega)
  have htoNat : (Char.ofNat n).toNat = n := by rw [Char.toNat_ofNat, if_pos hvalid]
  rw [isBlank_eq_false hlow hhigh, isBlank_eq_false (by omega) (by omega)]

theorem isBlank_lowerChar {c d : Char} (h : d ∈ lowerChar c) : isBlank d = isBlank c := by
  unfold lowerChar at h
  split at h
  · obtain rfl := List.mem_singleton.mp h
    split
    · next hcapital =>
      rw [Bool.and_eq_true, decide_eq_true_eq, decide_eq_true_eq, Char.le_def, Char.le_def,
        UInt32.le_iff_toNat_le, UInt32.le_iff_toNat_le] at hcapital
      have hA : 'A'.val.toNat = 65 := rfl
      have hZ : 'Z'.val.toNat = 90 := rfl
      rw [hA, hZ, Char.toNat_val] at hcapital
      exact isBlank_ofNat_eq (by omega) (by omega) (by omega) (by omega)
    · rfl
  · split at h
    · next hdotted =>
      obtain rfl : c = '\u0130' := Char.toNat_inj.mp (beq_iff_eq.mp hdotted)
      have hforms : isBlank 'i' = isBlank '\u0130' ∧ isBlank '\u0307' = isBlank '\u0130' := by decide
      rcases List.mem_pair.mp h with rfl | rfl
      · exact hforms.1
      · exact hforms.2
    · obtain rfl := List.mem_singleton.mp h
      exact isBlank_shiftCase runs_avoidBlanks.1 c

theorem isBlank_upperChar {c d : Char} (h : d ∈ upperChar c) : isBlank d = isBlank c := by
  unfold upperChar at h
  split at h
  · obtain rfl := List.mem_singleton.mp h
    split
    · next hsmall =>
      rw [Bool.and_eq_true, decide_eq_true_eq, decide_eq_true_eq, Char.le_def, Char.le_def,
        UInt32.le_iff_toNat_le, UInt32.le_iff_toNat_le] at hsmall
      have ha : 'a'.val.toNat = 97 := rfl
      have hz : 'z'.val.toNat = 122 := rfl
      rw [ha, hz, Char.toNat_val] at hsmall
      exact isBlank_ofNat_eq (by omega) (by omega) (by omega) (by omega)
    · rfl
  · split at h
    · next codes hcodes =>
      obtain ⟨before, after, hmem, _⟩ := List.lookup_eq_some_iff.mp hcodes
      obtain ⟨_, hsource, htargets⟩ := upperExpansions_solid (c.toNat, codes) (by rw [hmem]; simp)
      rw [Char.ofNat_toNat] at hsource
      obtain ⟨n, hn, rfl⟩ := List.mem_map.mp h
      rw [htargets n hn, hsource]
    · obtain rfl := List.mem_singleton.mp h
      exact isBlank_shiftCase runs_avoidBlanks.2 c

theorem upperChar_ne_nil (c : Char) : upperChar c ≠ [] := by
  unfold upperChar
  split
  · exact List.cons_ne_nil _ _
  · split
    · next codes hcodes =>
      obtain ⟨before, after, hmem, _⟩ := List.lookup_eq_some_iff.mp hcodes
      have hne := (upperExpansions_solid (c.toNat, codes) (by rw [hmem]; simp)).1
      simpa using hne
    · exact List.cons_ne_nil _ _

/-! ## The ends of a text -/

/-- A text whose first and last characters, if it has any, are no white space. -/
structure Trimmed (t : List Char) : Prop where
  first : ∀ c ∈ t.head?, isBlank c = false
  last : ∀ c ∈ t.getLast?, isBlank c = false

theorem Trimmed.trim_eq {t : List Char} (h : Trimmed t) : trim t = t :=
  Command.trim_eq_self h.first h.last

theorem first_trimStart (t : List Char) : ∀ c ∈ (trimStart t).head?, isBlank c = false := by
  intro c hc
  have hnot := List.head?_dropWhile_not isBlank t
  rw [trimStart, Option.mem_def] at hc
  rw [hc] at hnot
  simpa using hnot

theorem trimmed_trim (t : List Char) : Trimmed (trim t) where
  first := by
    intro c hc
    refine first_trimStart t c ?_
    have hprefix : trim t <+: trimStart t := List.rdropWhile_prefix isBlank (trimStart t)
    cases htrim : trim t with
    | nil => rw [htrim] at hc; cases hc
    | cons d u =>
      rw [htrim] at hc hprefix
      obtain ⟨rest, hrest⟩ := hprefix
      rw [← hrest]
      exact hc
  last := by
    intro c hc
    refine first_trimStart (trimStart t).reverse c ?_
    rw [← List.getLast?_reverse]
    exact hc

theorem squeezeFrom_cons_of_not_blank {sep c : Char} {inRun : Bool} {cs : List Char}
    (h : isBlank c = false) : squeezeFrom sep inRun (c :: cs) = c :: squeezeFrom sep false cs := by
  rw [squeezeFrom, h, if_neg Bool.false_ne_true]

/-- Squeezing keeps the last character of a text that does not end in white space. -/
theorem getLast?_squeezeFrom {sep : Char} {inRun : Bool} {t : List Char}
    (h : ∀ c ∈ t.getLast?, isBlank c = false) :
    (squeezeFrom sep inRun t).getLast? = t.getLast? := by
  induction t generalizing inRun with
  | nil => rfl
  | cons c cs ih =>
    cases cs with
    | nil =>
      rw [squeezeFrom_cons_of_not_blank (h c rfl)]
      rfl
    | cons d ds =>
      have hrest : ∀ b, (squeezeFrom sep b (d :: ds)).getLast? = (d :: ds).getLast? := fun b => ih h
      have hne : ∀ b, squeezeFrom sep b (d :: ds) ≠ [] := by
        intro b hnil
        have := hrest b
        rw [hnil] at this
        cases this
      rw [squeezeFrom, List.getLast?_cons_cons]
      split
      · split
        · exact hrest true
        · rw [List.getLast?_cons_of_ne_nil (hne true), hrest true]
      · rw [List.getLast?_cons_of_ne_nil (hne false), hrest false]

theorem Trimmed.squeeze {t : List Char} (h : Trimmed t) (sep : Char) : Trimmed (squeeze sep t) where
  first := by
    cases t with
    | nil => intro c hc; cases hc
    | cons c cs =>
      rw [Text.squeeze, squeezeFrom_cons_of_not_blank (h.first c rfl)]
      exact h.first
  last := by
    rw [Text.squeeze, getLast?_squeezeFrom h.last]
    exact h.last

/-- A text that begins with a visible piece and goes on with the rest of a trimmed text. -/
theorem trimmed_append {piece rest : List Char} (hne : piece ≠ [])
    (hpiece : ∀ d ∈ piece, isBlank d = false) (hrest : ∀ c ∈ rest.getLast?, isBlank c = false) :
    Trimmed (piece ++ rest) where
  first := by
    rw [List.head?_append_of_ne_nil _ hne]
    exact fun c hc => hpiece c (List.mem_of_head? hc)
  last := by
    cases rest with
    | nil =>
      rw [List.append_nil]
      exact fun c hc => hpiece c (List.mem_of_getLast? hc)
    | cons d ds =>
      rw [List.getLast?_append_of_ne_nil _ (List.cons_ne_nil d ds)]
      exact hrest

theorem last_tail {c : Char} {cs : List Char} (h : ∀ d ∈ (c :: cs).getLast?, isBlank d = false) :
    ∀ d ∈ cs.getLast?, isBlank d = false := by
  cases cs with
  | nil => intro d hd; cases hd
  | cons e es => rwa [List.getLast?_cons_cons] at h

theorem Trimmed.last_tail {c : Char} {cs : List Char} (h : Trimmed (c :: cs)) :
    ∀ d ∈ cs.getLast?, isBlank d = false := Text.last_tail h.last

theorem Trimmed.capitalize {t : List Char} (h : Trimmed t) : Trimmed (capitalize t) := by
  cases t with
  | nil => exact h
  | cons c cs =>
    refine trimmed_append (upperChar_ne_nil c) (fun d hd => ?_) h.last_tail
    rw [isBlank_upperChar hd]
    exact h.first c rfl

/-- What lowering makes of one character is not empty, and it is white space if that is. -/
theorem lowerFrom_cons (before cs : List Char) (c : Char) :
    ∃ piece, piece ≠ [] ∧ (∀ d ∈ piece, isBlank d = isBlank c) ∧
      lowerFrom before (c :: cs) = piece ++ lowerFrom (c :: before) cs := by
  rw [lowerFrom]
  by_cases hsigma : c = 'Σ'
  · subst hsigma
    refine ⟨_, ?_, ?_, rfl⟩
    · exact List.cons_ne_nil _ _
    · intro d hd
      have hforms : isBlank 'ς' = isBlank 'Σ' ∧ isBlank 'σ' = isBlank 'Σ' := by decide
      rw [if_pos (beq_self_eq_true 'Σ'), List.mem_singleton] at hd
      rw [hd]
      split
      · exact hforms.1
      · exact hforms.2
  · refine ⟨lowerChar c, ?_, fun d hd => isBlank_lowerChar hd, ?_⟩
    · exact List.ne_nil_of_length_pos (Command.length_lowerChar_pos c)
    · rw [if_neg (by simpa using hsigma)]

theorem last_lowerFrom {t : List Char} (h : ∀ c ∈ t.getLast?, isBlank c = false)
    (before : List Char) : ∀ c ∈ (lowerFrom before t).getLast?, isBlank c = false := by
  induction t generalizing before with
  | nil => exact h
  | cons c cs ih =>
    obtain ⟨piece, hne, hpiece, hlower⟩ := lowerFrom_cons before cs c
    rw [hlower]
    cases cs with
    | nil =>
      rw [lowerFrom, List.append_nil]
      intro d hd
      rw [hpiece d (List.mem_of_getLast? hd)]
      exact h c rfl
    | cons e es =>
      have hne : lowerFrom (c :: before) (e :: es) ≠ [] := by
        obtain ⟨piece', hne', _, hlower'⟩ := lowerFrom_cons (c :: before) es e
        rw [hlower']
        exact List.append_ne_nil_of_left_ne_nil hne' _
      rw [List.getLast?_append_of_ne_nil _ hne]
      rw [List.getLast?_cons_cons] at h
      exact ih h (c :: before)

theorem Trimmed.lower {t : List Char} (h : Trimmed t) : Trimmed (lower t) := by
  cases t with
  | nil => exact h
  | cons c cs =>
    obtain ⟨piece, hne, hpiece, hlower⟩ := lowerFrom_cons [] cs c
    rw [Text.lower, hlower]
    refine trimmed_append hne (fun d hd => ?_) (last_lowerFrom h.last_tail [c])
    rw [hpiece d hd]
    exact h.first c rfl

end Text

namespace Name

open Text

theorem trimmed_displayForm (name : String) : Trimmed (displayForm name).toList := by
  rw [displayForm, String.toList_ofList]
  exact ((trimmed_trim name.toList).squeeze ' ').capitalize

/-- **The small form of a display form** has no white space at its ends. -/
theorem strip_toLower_displayForm (name : String) :
    strip (toLower (displayForm name)) = toLower (displayForm name) := by
  have htrimmed := (trimmed_displayForm name).lower
  rw [strip, toLower, String.toList_ofList, htrimmed.trim_eq]

end Name

end FolderTalk
