import FolderTalk.Json.Read
import FolderTalk.Proofs.Json.Writing
import FolderTalk.Schema.Check
import Mathlib.Data.List.TakeWhile

/-!
# Numbers that were read have texts

The limit on digits is the same in both directions: a whole number that is read from a numeral of so
many digits has a text of no more.

* `fromDigits_lt` : the value of a row of digits is bounded by their number;
* `Lexeme.fits` : a number of JSON text that is read as a whole number has a text;
* `fits_integer` : so has a whole number that is checked, from whatever kind of value that is read.
-/

namespace FolderTalk

namespace Numeral

/-- The value of a row of digits is less than the power of ten of their number. -/
theorem fromDigits_lt {digits : List Nat} (h : ∀ d ∈ digits, d < 10) :
    fromDigits digits < Nat.pow 10 digits.length := by
  have hfrom : ∀ (ds : List Nat) (n : Nat), (∀ d ∈ ds, d < 10) →
      ds.foldl (fun n d => n * 10 + d) n < (n + 1) * Nat.pow 10 ds.length := by
    intro ds
    induction ds with
    | nil =>
      intro n _
      show n < (n + 1) * 1
      omega
    | cons d ds ih =>
      intro n hds
      obtain ⟨hd, hds⟩ := List.forall_mem_cons.mp hds
      calc (d :: ds).foldl (fun n d => n * 10 + d) n
          < (n * 10 + d + 1) * Nat.pow 10 ds.length := ih _ hds
        _ ≤ ((n + 1) * 10) * Nat.pow 10 ds.length := Nat.mul_le_mul_right _ (by omega)
        _ = (n + 1) * (Nat.pow 10 ds.length * 10) := by rw [Nat.mul_assoc, Nat.mul_comm 10]
        _ = (n + 1) * Nat.pow 10 (d :: ds).length := rfl
  have hzero := hfrom digits 0 h
  rwa [Nat.zero_add, Nat.one_mul] at hzero

theorem digitsValue_eq (cs : List Char) :
    digitsValue cs = fromDigits (cs.map fun c => c.toNat - '0'.toNat) := by
  rw [digitsValue, fromDigits, List.foldl_map]

theorem natAbs_signed (negative : Bool) (n : Nat) : (Binary64.signed negative n).natAbs = n := by
  cases negative <;> simp [Binary64.signed]

/-- Whole numbers of few digits have texts. -/
theorem fits_of_lt {n : Int} {k : Nat} (h : n.natAbs < Nat.pow 10 k) (hk : k ≤ maxDigits) :
    Fits n := by
  have hpow : ∀ m, k ≤ m → Nat.pow 10 k ≤ Nat.pow 10 m := fun m hm =>
    Nat.pow_le_pow_right (by decide) hm
  exact Nat.lt_of_lt_of_le h (hpow maxDigits hk)

theorem fits_signed {digits : List Nat} (hdigits : ∀ d ∈ digits, d < 10)
    (hlength : digits.length ≤ maxDigits) (negative : Bool) :
    Fits (Binary64.signed negative (fromDigits digits)) := by
  apply fits_of_lt _ hlength
  rw [natAbs_signed]
  exact fromDigits_lt hdigits

/-- The digits of a numeral are the digits of its characters. -/
theorem mem_underscored {digit? : Char → Option Nat} {cs : List Char} {digits : List Nat}
    (h : underscored digit? cs = some digits) {d : Nat} (hd : d ∈ digits) :
    ∃ c, digit? c = some d := by
  fun_induction underscored digit? cs generalizing digits with
  | case1 => cases h
  | case2 c =>
    obtain ⟨e, he, rfl⟩ := Option.map_eq_some_iff.mp h
    exact ⟨c, by rw [List.mem_singleton.mp hd, he]⟩
  | case3 c cs ih =>
    simp only [Option.bind_eq_bind, Option.bind_eq_some_iff, Option.pure_def,
      Option.some.injEq] at h
    obtain ⟨e, he, rest, hrest, rfl⟩ := h
    rcases List.mem_cons.mp hd with rfl | hd
    · exact ⟨c, he⟩
    · exact ih hrest hd
  | case4 c cs _ _ ih =>
    simp only [Option.bind_eq_bind, Option.bind_eq_some_iff, Option.pure_def,
      Option.some.injEq] at h
    obtain ⟨e, he, rest, hrest, rfl⟩ := h
    rcases List.mem_cons.mp hd with rfl | hd
    · exact ⟨c, he⟩
    · exact ih hrest hd

end Numeral

/-! ## Numbers in JSON text -/

namespace Json

theorem digit_lt {c : Char} (h : isDigit c) : c.toNat - '0'.toNat < 10 := by
  rw [isDigit, Bool.and_eq_true, decide_eq_true_eq, decide_eq_true_eq, Char.le_def, Char.le_def,
    UInt32.le_iff_toNat_le, UInt32.le_iff_toNat_le, Char.toNat_val, Char.toNat_val] at h
  have hzero : '0'.toNat = 48 := rfl
  have hnine : '9'.val.toNat = 57 := rfl
  omega

/-- The number begins with digits alone. -/
def Lexeme.Numeric (l : Lexeme) : Prop := ∀ c ∈ l.whole, isDigit c

theorem wholePart?_digits {cs whole rest : List Char} (h : wholePart? cs = some (whole, rest)) :
    ∀ c ∈ whole, isDigit c := by
  unfold wholePart? at h
  split at h
  · cases h
  · next c cs =>
    split at h
    · cases h
      exact List.forall_mem_singleton.mpr rfl
    · split at h
      · next hc =>
        cases h
        exact List.forall_mem_cons.mpr ⟨hc, fun d hd => List.mem_takeWhile_imp hd⟩
      · cases h

theorem number?_numeric {cs rest : List Char} {l : Lexeme} (h : number? cs = some (l, rest)) :
    l.Numeric := by
  unfold number? at h
  simp only [Option.bind_eq_bind, Option.bind_eq_some_iff, Option.pure_def, Option.some.injEq,
    Prod.mk.injEq] at h
  obtain ⟨⟨whole, left⟩, hwhole, rfl, _⟩ := h
  exact wholePart?_digits hwhole

/-- A number that is read as a whole number has a text. -/
theorem Lexeme.fits {l : Lexeme} {n : Int} (hl : l.Numeric) (h : l.value = .ok (.int n)) :
    Numeral.Fits n := by
  unfold Lexeme.value at h
  split at h
  · split at h
    · cases h
    · next hlength =>
      cases h
      rw [Numeral.digitsValue_eq]
      apply Numeral.fits_signed
      · intro d hd
        obtain ⟨c, hc, rfl⟩ := List.mem_map.mp hd
        exact digit_lt (hl c hc)
      · rw [List.length_map]
        omega
  · cases h

end Json

/-! ## Whole numbers that are checked -/

namespace Schema

open Numeral

theorem fits_integerOfText {s : String} {n : Int} (h : integerOfText s = .valid n) : Fits n := by
  unfold integerOfText at h
  dsimp only at h
  split at h
  · cases h
  · split at h
    · cases h
    · next digits hdigits =>
      split at h
      · cases h
      · next hlength =>
        cases h
        refine fits_signed (fun d hd => ?_) (Nat.not_lt.mp hlength) _
        obtain ⟨c, hc⟩ := mem_underscored hdigits hd
        split at hc
        · next hdigit =>
          cases hc
          exact Json.digit_lt hdigit
        · cases hc

theorem fits_integerOfFloat {x : Binary64} {n : Int} (h : integerOfFloat x = .valid n) : Fits n := by
  unfold integerOfFloat at h
  split at h
  · split at h
    · split at h
      · next hword =>
        cases h
        rw [fitsWord, Bool.and_eq_true, decide_eq_true_eq, decide_eq_true_eq] at hword
        have hpow : Nat.pow 2 63 = 9223372036854775808 := by decide
        have hbound : Nat.pow 10 20 = 100000000000000000000 := by decide
        refine fits_of_lt (k := 20) ?_ (by decide)
        omega
      · cases h
    · cases h
  · cases h

/-- **A whole number that is checked has a text**, if one that stands there as a whole number does. -/
theorem fits_integer {v : Value} {n : Int} (hv : ∀ m, v = .int m → Fits m)
    (h : integer v = .valid n) : Fits n := by
  cases v with
  | int m =>
    cases h
    exact hv _ rfl
  | bool b =>
    cases h
    refine fits_of_lt (k := 1) ?_ (by decide)
    cases b <;> decide
  | float x => exact fits_integerOfFloat h
  | text s => exact fits_integerOfText h
  | _ => cases h

end Schema

end FolderTalk
