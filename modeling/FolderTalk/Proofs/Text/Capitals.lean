import FolderTalk.Proofs.Text.Lowered
import FolderTalk.Proofs.Text.Trimmed
import Mathlib

/-!
# Capitals stay capitals

* `smallLetters_disjoint` : what the capital form of a letter begins with is no letter that has another
  capital form;
* `capitalize_capitalize` : so a text that begins with a capital is left alone, also where one letter
  became several.

The further letters of a capital form may have capital forms of their own, like the second one of
the ligatures for "ff": only the first one is capitalised again.
-/

namespace FolderTalk.Text

/-- The code points that capitals change. -/
def smallLetters : List (List Nat) :=
  List.range' 97 26 :: upperExpansions.map Prod.fst :: upperRuns.map CaseRun.sources

/-- The code points that the capital forms beyond ASCII begin with, where they are others. -/
def initials : List (List Nat) :=
  upperExpansions.map (fun e => e.2.headD 0) :: upperRuns.map CaseRun.targets

theorem upperRuns_wellFormed : ∀ r ∈ upperRuns, r.WellFormed := by decide +kernel

theorem smallLetters_disjoint : bitsOfAll smallLetters &&& bitsOfAll initials = 0 := by decide +kernel

/-- What a letter expands to begins with a code point that is a character. -/
theorem upperExpansions_head : ∀ e ∈ upperExpansions,
    (Char.ofNat (e.2.headD 0)).toNat = e.2.headD 0 := by decide +kernel

theorem isSmall_iff {c : Char} :
    (decide ('a' ≤ c) && decide (c ≤ 'z')) = true ↔ 97 ≤ c.toNat ∧ c.toNat ≤ 122 := by
  rw [Bool.and_eq_true, decide_eq_true_eq, decide_eq_true_eq, Char.le_def, Char.le_def,
    UInt32.le_iff_toNat_le, UInt32.le_iff_toNat_le]
  exact Iff.rfl

theorem upperChar_ascii {c : Char} (h : c.toNat < 128)
    (hcapital : ¬ (97 ≤ c.toNat ∧ c.toNat ≤ 122)) : upperChar c = [c] := by
  rw [upperChar, if_pos h, if_neg (mt isSmall_iff.mp hcapital)]

theorem upperChar_of_not_mem {c : Char} (h : ∀ l ∈ smallLetters, c.toNat ∉ l) : upperChar c = [c] := by
  obtain ⟨hletters, hexpansions, hruns⟩ := by
    simpa only [smallLetters, List.forall_mem_cons, List.forall_mem_map] using h
  by_cases hascii : c.toNat < 128
  · exact upperChar_ascii hascii fun hsmall => hletters (List.mem_range'_1.mpr (by omega))
  · have hlookup : upperExpansions.lookup c.toNat = none := by
      rw [List.lookup_eq_none_iff]
      intro e he
      rw [bne_iff_ne]
      rintro heq
      exact hexpansions (List.mem_map.mpr ⟨e, he, heq.symm⟩)
    have hfind : upperRuns.find? (·.contains c.toNat) = none := by
      rw [List.find?_eq_none]
      intro r hr hcontains
      exact hruns r hr ((CaseRun.contains_iff_mem (upperRuns_wellFormed r hr)).mp hcontains)
    rw [upperChar, if_neg hascii, hlookup, shiftCase, hfind]

theorem upperChar_of_mem {c : Char} {l : List Nat} (hl : l ∈ initials) (hc : c.toNat ∈ l) :
    upperChar c = [c] :=
  upperChar_of_not_mem (not_mem_of_disjoint smallLetters_disjoint hl hc)

/-- What the capital form of a character begins with is its own capital form. -/
theorem upperChar_of_head {c d : Char} (h : d ∈ (upperChar c).head?) : upperChar d = [d] := by
  by_cases hascii : c.toNat < 128
  · by_cases hsmall : 97 ≤ c.toNat ∧ c.toNat ≤ 122
    · rw [upperChar, if_pos hascii, if_pos (isSmall_iff.mpr hsmall)] at h
      obtain rfl := Option.some.inj h
      have htoNat : (Char.ofNat (c.toNat - 32)).toNat = c.toNat - 32 := by
        rw [Char.toNat_ofNat, if_pos (.inl (by omega))]
      exact upperChar_ascii (by omega) (by omega)
    · rw [upperChar_ascii hascii hsmall] at h
      obtain rfl := Option.some.inj h
      exact upperChar_ascii hascii hsmall
  · cases hlookup : upperExpansions.lookup c.toNat with
    | some codes =>
      obtain ⟨_, _, hmem, _⟩ := List.lookup_eq_some_iff.mp hlookup
      have hexpansion : (c.toNat, codes) ∈ upperExpansions := by
        rw [hmem]
        exact List.mem_append_right _ (List.mem_cons_self ..)
      have hfirst := upperExpansions_head _ hexpansion
      obtain ⟨n, ns, rfl⟩ := List.exists_cons_of_ne_nil (upperExpansions_solid _ hexpansion).1
      rw [upperChar, if_neg hascii, hlookup] at h
      obtain rfl := Option.some.inj h
      refine upperChar_of_mem (List.mem_cons_self ..) ?_
      rw [List.headD_cons] at hfirst
      rw [hfirst]
      exact List.mem_map.mpr ⟨_, hexpansion, rfl⟩
    | none =>
      cases hfind : upperRuns.find? (·.contains c.toNat) with
      | some r =>
        rw [upperChar, if_neg hascii, hlookup, shiftCase, hfind] at h
        obtain rfl := Option.some.inj h
        have hr := List.mem_of_find?_eq_some hfind
        exact upperChar_of_mem (List.mem_cons_of_mem _ (List.mem_map_of_mem hr))
          (CaseRun.toNat_shifted (upperRuns_wellFormed r hr) (by simpa using List.find?_some hfind))
      | none =>
        have hself : upperChar c = [c] := by
          rw [upperChar, if_neg hascii, hlookup, shiftCase, hfind]
        rw [hself] at h
        obtain rfl := Option.some.inj h
        exact hself

/-- **A capitalised text** is left alone by capitalising it. -/
theorem capitalize_capitalize (t : List Char) : capitalize (capitalize t) = capitalize t := by
  cases t with
  | nil => rfl
  | cons c t =>
    obtain ⟨d, ds, hupper⟩ := List.exists_cons_of_ne_nil (upperChar_ne_nil c)
    have hd : upperChar d = [d] := upperChar_of_head (by rw [hupper]; rfl)
    rw [capitalize, hupper, List.cons_append, capitalize, hd]
    rfl

end FolderTalk.Text
