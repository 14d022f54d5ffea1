import FolderTalk.Proofs.Command.Spaced
import Mathlib

/-!
# Small letters stay small

* `bits`, `bitsOfAll` : sets of code points as single numbers, which are compared in one step;
* `capitals_disjoint` : no letter that lowering gives is one that lowering changes;
* `small_lower` : so what lowering gives is left alone by lowering, character by character, wherever
  it stands;
* `toLower_toLower` : lowering twice is lowering once.
-/

namespace FolderTalk.Text

open Command (Small)

/-! ## Sets of code points -/

/-- A set of numbers as the number whose bits they are. -/
def bits (l : List Nat) : Nat := l.foldr (fun n s => 1 <<< n ||| s) 0

/-- The union of sets of numbers as one number. -/
def bitsOfAll (ls : List (List Nat)) : Nat := ls.foldr (fun l s => bits l ||| s) 0

theorem testBit_bits {l : List Nat} {n : Nat} : (bits l).testBit n = true ↔ n ∈ l := by
  induction l with
  | nil => simp [bits]
  | cons m l ih =>
    have hbit : (1 <<< m).testBit n = true ↔ n = m := by
      rw [Nat.one_shiftLeft, Nat.testBit_two_pow, decide_eq_true_eq, eq_comm]
    rw [bits, List.foldr_cons, Nat.testBit_or, Bool.or_eq_true, hbit, List.mem_cons]
    exact or_congr_right ih

theorem testBit_bitsOfAll {ls : List (List Nat)} {n : Nat} :
    (bitsOfAll ls).testBit n = true ↔ ∃ l ∈ ls, n ∈ l := by
  induction ls with
  | nil => simp [bitsOfAll]
  | cons l ls ih =>
    rw [bitsOfAll, List.foldr_cons, Nat.testBit_or, Bool.or_eq_true, testBit_bits,
      List.exists_mem_cons_iff]
    exact or_congr_right ih

theorem not_mem_of_disjoint {ls ls' : List (List Nat)} (h : bitsOfAll ls &&& bitsOfAll ls' = 0)
    {n : Nat} {l' : List Nat} (hl' : l' ∈ ls') (hn : n ∈ l') : ∀ l ∈ ls, n ∉ l := by
  intro l hl hmem
  have hboth : (bitsOfAll ls &&& bitsOfAll ls').testBit n = true := by
    rw [Nat.testBit_and, Bool.and_eq_true]
    exact ⟨testBit_bitsOfAll.mpr ⟨l, hl, hmem⟩, testBit_bitsOfAll.mpr ⟨l', hl', hn⟩⟩
  rw [h, Nat.zero_testBit] at hboth
  cases hboth

/-! ## Where the case pairs lead -/

namespace CaseRun

/-- The least code point that the run leads to. -/
def low (r : CaseRun) : Nat := (r.first + r.shift).toNat

/-- The number of pairs. -/
def count (r : CaseRun) : Nat := (r.last - r.first) / r.step + 1

/-- The code points that the run starts from. -/
def sources (r : CaseRun) : List Nat := List.range' r.first r.count r.step

/-- The code points that the run leads to. -/
def targets (r : CaseRun) : List Nat := List.range' r.low r.count r.step

/-- The run has an order, and it leads to characters. -/
def WellFormed (r : CaseRun) : Prop :=
  r.first ≤ r.last ∧ 0 < r.step ∧ 0 ≤ (r.first : Int) + r.shift ∧
    ((r.last : Int) + r.shift < 0xd800 ∨
      0xdfff < (r.first : Int) + r.shift ∧ (r.last : Int) + r.shift < 0x110000)

instance : DecidablePred WellFormed := fun _ => inferInstanceAs (Decidable (_ ∧ _ ∧ _ ∧ _))

variable {r : CaseRun} {n : Nat}

theorem contains_iff :
    r.contains n = true ↔ r.first ≤ n ∧ n ≤ r.last ∧ (n - r.first) % r.step = 0 := by
  simp [contains, and_assoc]

theorem contains_iff_mem (hr : r.WellFormed) : r.contains n = true ↔ n ∈ r.sources := by
  obtain ⟨horder, hstep, _⟩ := hr
  rw [contains_iff, sources, List.mem_range', count]
  constructor
  · rintro ⟨hfirst, hlast, hmod⟩
    have hle : (n - r.first) / r.step ≤ (r.last - r.first) / r.step :=
      Nat.div_le_div_right (by omega)
    have hmul : r.step * ((n - r.first) / r.step) = n - r.first := by
      rw [Nat.mul_div_cancel_left' (Nat.dvd_of_mod_eq_zero hmod)]
    exact ⟨(n - r.first) / r.step, by omega, by omega⟩
  · rintro ⟨i, hi, rfl⟩
    have hle : r.step * i ≤ r.last - r.first :=
      (Nat.mul_le_mul_left _ (Nat.lt_succ_iff.mp hi)).trans (Nat.mul_div_le _ _)
    refine ⟨by omega, by omega, ?_⟩
    rw [Nat.add_sub_cancel_left, Nat.mul_mod_right]

theorem mem_targets (hr : r.WellFormed) (h : r.contains n) : (n + r.shift).toNat ∈ r.targets := by
  obtain ⟨i, hi, rfl⟩ := List.mem_range'.mp ((contains_iff_mem hr).mp h)
  obtain ⟨_, _, hlow, _⟩ := hr
  refine List.mem_range'.mpr ⟨i, hi, ?_⟩
  rw [low]
  omega

/-- The character that a run leads to has one of its targets as code point. -/
theorem toNat_shifted (hr : r.WellFormed) (h : r.contains n) :
    (Char.ofNat (n + r.shift).toNat).toNat ∈ r.targets := by
  have htarget := mem_targets hr h
  obtain ⟨_, _, hlow, hvalid⟩ := hr
  obtain ⟨hfirst, hlast, _⟩ := contains_iff.mp h
  rwa [Char.toNat_ofNat, if_pos]
  rcases hvalid with h | h
  · exact .inl (by omega)
  · exact .inr ⟨by omega, by omega⟩

end CaseRun

/-- The code points that lowering changes. -/
def capitals : List (List Nat) := List.range' 65 26 :: [0x130] :: lowerRuns.map CaseRun.sources

/-- The code points beyond ASCII that lowering gives for others: a combining dot, the two small sigmas
and those that the runs lead to. -/
def smallOnes : List (List Nat) := [0x307, 0x3c2, 0x3c3] :: lowerRuns.map CaseRun.targets

theorem lowerRuns_wellFormed : ∀ r ∈ lowerRuns, r.WellFormed := by decide +kernel

theorem capitals_disjoint :
    bitsOfAll capitals &&& bitsOfAll smallOnes = 0 ∧ (bitsOfAll capitals).testBit 'Σ'.toNat := by
  decide +kernel

/-! ## Lowered characters -/

/-- Lowering leaves the character alone. -/
def SmallChar (c : Char) : Prop := c ≠ 'Σ' ∧ lowerChar c = [c]

theorem isCapital_iff {c : Char} :
    (decide ('A' ≤ c) && decide (c ≤ 'Z')) = true ↔ 65 ≤ c.toNat ∧ c.toNat ≤ 90 := by
  rw [Bool.and_eq_true, decide_eq_true_eq, decide_eq_true_eq, Char.le_def, Char.le_def,
    UInt32.le_iff_toNat_le, UInt32.le_iff_toNat_le]
  exact Iff.rfl

theorem smallChar_ascii {c : Char} (h : c.toNat < 128) (hsmall : ¬ (65 ≤ c.toNat ∧ c.toNat ≤ 90)) :
    SmallChar c := by
  constructor
  · rintro rfl
    exact absurd h (by decide)
  · rw [lowerChar, if_pos h, if_neg (mt isCapital_iff.mp hsmall)]

/-- Beyond ASCII the capitals are the dotted one and those that a run starts from. -/
theorem not_mem_capitals_iff {n : Nat} (h : 128 ≤ n) :
    (∀ l ∈ capitals, n ∉ l) ↔ n ≠ 0x130 ∧ lowerRuns.find? (·.contains n) = none := by
  have hletters : n ∉ List.range' 65 26 := by
    rw [List.mem_range'_1]
    omega
  rw [capitals, List.forall_mem_cons, List.forall_mem_cons, List.forall_mem_map, List.mem_singleton,
    List.find?_eq_none]
  refine and_iff_right hletters |>.trans (and_congr_right' (forall₂_congr fun r hr => ?_))
  rw [CaseRun.contains_iff_mem (lowerRuns_wellFormed r hr)]

theorem smallChar_of_not_mem {c : Char} (h : ∀ l ∈ capitals, c.toNat ∉ l) : SmallChar c := by
  have hsigma : c ≠ 'Σ' := by
    rintro rfl
    obtain ⟨l, hl, hmem⟩ := testBit_bitsOfAll.mp capitals_disjoint.2
    exact h l hl hmem
  by_cases hascii : c.toNat < 128
  · refine smallChar_ascii hascii fun hcapital => ?_
    exact h _ (List.mem_cons_self ..) (List.mem_range'_1.mpr (by omega))
  · obtain ⟨hdotted, hnone⟩ := (not_mem_capitals_iff (Nat.not_lt.mp hascii)).mp h
    refine ⟨hsigma, ?_⟩
    rw [lowerChar, if_neg hascii, if_neg (by simpa using hdotted), shiftCase, hnone]

theorem smallChar_of_mem {c : Char} {l : List Nat} (hl : l ∈ smallOnes) (hc : c.toNat ∈ l) :
    SmallChar c :=
  smallChar_of_not_mem (not_mem_of_disjoint capitals_disjoint.1 hl hc)

theorem smallChar_shifted {c : Char} {r : CaseRun} (hr : r ∈ lowerRuns) (hc : r.contains c.toNat) :
    SmallChar (Char.ofNat (c.toNat + r.shift).toNat) :=
  smallChar_of_mem (List.mem_cons_of_mem _ (List.mem_map_of_mem hr))
    (CaseRun.toNat_shifted (lowerRuns_wellFormed r hr) hc)

/-- What lowering makes of a character is small. -/
theorem smallChar_lowerChar {c d : Char} (h : d ∈ lowerChar c) : SmallChar d := by
  unfold lowerChar at h
  split at h
  · next hascii =>
    obtain rfl := List.mem_singleton.mp h
    by_cases hcapital : 65 ≤ c.toNat ∧ c.toNat ≤ 90
    · rw [if_pos (isCapital_iff.mpr hcapital)]
      have htoNat : (Char.ofNat (c.toNat + 32)).toNat = c.toNat + 32 := by
        rw [Char.toNat_ofNat, if_pos (.inl (by omega))]
      exact smallChar_ascii (by omega) (by omega)
    · rw [if_neg (mt isCapital_iff.mp hcapital)]
      exact smallChar_ascii hascii hcapital
  · next hascii =>
    split at h
    · rcases List.mem_pair.mp h with rfl | rfl
      · exact smallChar_ascii (by decide) (by decide)
      · exact smallChar_of_mem (List.mem_cons_self ..) (by decide)
    · next hdotted =>
      obtain rfl := List.mem_singleton.mp h
      unfold shiftCase
      split
      · next r hfound =>
        exact smallChar_shifted (List.mem_of_find?_eq_some hfound)
          (by simpa using List.find?_some hfound)
      · next hnone =>
        exact smallChar_of_not_mem ((not_mem_capitals_iff (Nat.not_lt.mp hascii)).mpr
          ⟨by simpa using hdotted, hnone⟩)

/-! ## Lowered texts -/

theorem small_lowerFrom (before t : List Char) : Small (lowerFrom before t) := by
  induction t generalizing before with
  | nil => exact List.forall_mem_nil _
  | cons c cs ih =>
    rw [lowerFrom]
    refine Command.small_append.mpr ⟨fun d hd => ?_, ih (c :: before)⟩
    split at hd
    · rw [List.mem_singleton] at hd
      subst hd
      split
      · exact smallChar_of_mem (List.mem_cons_self ..) (by decide)
      · exact smallChar_of_mem (List.mem_cons_self ..) (by decide)
    · exact smallChar_lowerChar hd

/-- **A lowered text** consists of characters that lowering leaves alone. -/
theorem small_lower (t : List Char) : Small (lower t) := small_lowerFrom [] t

theorem lower_of_small {t : List Char} (h : Small t) : lower t = t :=
  Command.lowerFrom_eq_self h []

theorem lower_lower (t : List Char) : lower (lower t) = lower t := lower_of_small (small_lower t)

@[simp] theorem toLower_toLower (s : String) : toLower (toLower s) = toLower s := by
  rw [toLower, toLower, String.toList_ofList, lower_lower]

end FolderTalk.Text
