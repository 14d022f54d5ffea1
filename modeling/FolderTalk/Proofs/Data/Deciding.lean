import FolderTalk.Value

/-!
# Whether two values are equal

Equality of values, down to the spelling of numbers and the order of entries, is decidable.
-/

namespace FolderTalk.Value

mutual

/-- Whether two values are equal. -/
def isEqual : Value → Value → Bool
  | null, null => true
  | bool b, bool c => b == c
  | int m, int n => m == n
  | float x, float y => decide (x = y)
  | text s, text t => s == t
  | date d, date e => decide (d = e)
  | moment m, moment n => decide (m = n)
  | list xs, list ys => areEqual xs ys
  | map xs, map ys => haveEqualEntries xs ys
  | _, _ => false

def areEqual : List Value → List Value → Bool
  | [], [] => true
  | x :: xs, y :: ys => isEqual x y && areEqual xs ys
  | _, _ => false

def haveEqualEntries : List (Value × Value) → List (Value × Value) → Bool
  | [], [] => true
  | x :: xs, y :: ys => isEqualEntry x y && haveEqualEntries xs ys
  | _, _ => false

def isEqualEntry : Value × Value → Value × Value → Bool
  | (k, v), (k', v') => isEqual k k' && isEqual v v'

end

mutual

theorem isEqual_iff : ∀ v w : Value, v.isEqual w = true ↔ v = w
  | null, w | bool _, w | int _, w | float _, w | text _, w | date _, w | moment _, w => by
    cases w <;> simp [isEqual]
  | list xs, w => by
    cases w with
    | list ys => rw [isEqual, areEqual_iff xs ys, list.injEq]
    | _ => simp [isEqual]
  | map xs, w => by
    cases w with
    | map ys => rw [isEqual, haveEqualEntries_iff xs ys, map.injEq]
    | _ => simp [isEqual]

theorem areEqual_iff : ∀ xs ys : List Value, areEqual xs ys = true ↔ xs = ys
  | [], ys => by cases ys <;> simp [areEqual]
  | x :: xs, ys => by
    cases ys with
    | nil => simp [areEqual]
    | cons y ys =>
      rw [areEqual, Bool.and_eq_true, isEqual_iff x y, areEqual_iff xs ys, List.cons.injEq]

theorem haveEqualEntries_iff : ∀ xs ys : List (Value × Value), haveEqualEntries xs ys = true ↔ xs = ys
  | [], ys => by cases ys <;> simp [haveEqualEntries]
  | x :: xs, ys => by
    cases ys with
    | nil => simp [haveEqualEntries]
    | cons y ys =>
      rw [haveEqualEntries, Bool.and_eq_true, isEqualEntry_iff x y, haveEqualEntries_iff xs ys,
        List.cons.injEq]

theorem isEqualEntry_iff : ∀ x y : Value × Value, isEqualEntry x y = true ↔ x = y
  | (k, v), (k', v') => by
    rw [isEqualEntry, Bool.and_eq_true, isEqual_iff k k', isEqual_iff v v', Prod.mk.injEq]

end

instance : DecidableEq Value := fun v w => decidable_of_iff _ (isEqual_iff v w)

end FolderTalk.Value
