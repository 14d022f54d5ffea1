/-!
# Comparing two lists

Two lists are compared by the longest run of items that they share: it is kept, and what comes
before and after it on both sides is compared in the same way. What is left over is a change.

* `Diff.compare` gives the stretches that two lists share and those in which they differ.
* `Piece.old` and `Piece.new` read the two lists off the stretches again.
-/

namespace FolderTalk.Diff

variable {α : Type}

/-- A stretch of two lists. -/
inductive Piece (α : Type) where
  | same (items : List α)
  | change (removed added : List α)
  deriving DecidableEq, Repr

namespace Piece

/-- The items of a stretch in the old list. -/
def old : Piece α → List α
  | same items => items
  | change removed _ => removed

/-- The items of a stretch in the new list. -/
def new : Piece α → List α
  | same items => items
  | change _ added => added

end Piece

/-- Puts a stretch in front of others, joining it with the first when both are shared. -/
def Piece.onto : Piece α → List (Piece α) → List (Piece α)
  | .same xs, .same ys :: ps => .same (xs ++ ys) :: ps
  | p, ps => p :: ps

theorem old_onto (p : Piece α) (ps : List (Piece α)) :
    (p.onto ps).flatMap Piece.old = p.old ++ ps.flatMap Piece.old := by
  unfold Piece.onto
  split <;> simp [Piece.old]

theorem new_onto (p : Piece α) (ps : List (Piece α)) :
    (p.onto ps).flatMap Piece.new = p.new ++ ps.flatMap Piece.new := by
  unfold Piece.onto
  split <;> simp [Piece.new]

theorem old_foldr_onto (ps qs : List (Piece α)) :
    (ps.foldr Piece.onto qs).flatMap Piece.old = ps.flatMap Piece.old ++ qs.flatMap Piece.old := by
  induction ps with
  | nil => simp
  | cons p ps ih => rw [List.foldr_cons, old_onto, ih, List.flatMap_cons, List.append_assoc]

theorem new_foldr_onto (ps qs : List (Piece α)) :
    (ps.foldr Piece.onto qs).flatMap Piece.new = ps.flatMap Piece.new ++ qs.flatMap Piece.new := by
  induction ps with
  | nil => simp
  | cons p ps ih => rw [List.foldr_cons, new_onto, ih, List.flatMap_cons, List.append_assoc]

variable [DecidableEq α]

/-- What two lists have in common at their beginning, and the rest of each. -/
def shared : List α → List α → List α × List α × List α
  | x :: xs, y :: ys =>
    if x = y then
      let (common, a, b) := shared xs ys
      (x :: common, a, b)
    else ([], x :: xs, y :: ys)
  | xs, ys => ([], xs, ys)

/-- The beginning of a shared run in both lists, and its length. -/
structure Run where
  old : Nat := 0
  new : Nat := 0
  size : Nat := 0
  deriving DecidableEq, Repr

/-- For each item of the new list the length of the shared run that ends there and at `x`; `before`
holds these lengths for the item before `x`. An item that is not telling belongs to no run. -/
def runsEnding (telling : Bool) (x : α) (before : List Nat) (new : List α) : List Nat :=
  ((0 :: before).zip new).map fun (n, y) => if telling && x = y then n + 1 else 0

/-- The longer of a run and the runs that end at the item with number `i` of the old list; of two
equal ones the earlier. -/
def longer (i : Nat) (lengths : List Nat) (best : Run) : Run :=
  lengths.zipIdx.foldl (fun best (n, j) =>
    if best.size < n then ⟨i + 1 - n, j + 1 - n, n⟩ else best) best

/-- The longest shared run of telling items, the first of them in the old list and then in the new
one. -/
def longestRun (telling : α → Bool) (old new : List α) : Run :=
  (old.zipIdx.foldl (fun (before, best) (x, i) =>
    let lengths := runsEnding (telling x) x before new
    (lengths, longer i lengths best)) (new.map fun _ => 0, ({} : Run))).2

theorem shared_append (xs ys : List α) :
    (shared xs ys).1 ++ (shared xs ys).2.1 = xs ∧ (shared xs ys).1 ++ (shared xs ys).2.2 = ys := by
  fun_induction shared xs ys with
  | case1 xs y ys common a b h ih => simpa [h] using ih
  | case2 => simp
  | case3 => simp

/-- Two lists cut at a run that they share: what comes before it, the run and what comes after
it. -/
structure Cut (α : Type) where
  oldBefore : List α
  newBefore : List α
  common : List α
  oldAfter : List α
  newAfter : List α

/-- Cuts two lists at the run that goes on from a place in each, to both sides. -/
def cutAt (run : Run) (old new : List α) : Cut α :=
  let after := shared (old.drop run.old) (new.drop run.new)
  let before := shared (old.take run.old).reverse (new.take run.new).reverse
  ⟨before.2.1.reverse, before.2.2.reverse, before.1.reverse ++ after.1, after.2.1, after.2.2⟩

/-- The parts of a cut make up the two lists. -/
theorem cutAt_append (run : Run) (old new : List α) :
    (cutAt run old new).oldBefore ++ ((cutAt run old new).common ++ (cutAt run old new).oldAfter)
        = old
      ∧ (cutAt run old new).newBefore
        ++ ((cutAt run old new).common ++ (cutAt run old new).newAfter) = new := by
  have ha := shared_append (old.drop run.old) (new.drop run.new)
  have hb := shared_append (old.take run.old).reverse (new.take run.new).reverse
  have before (a b c : List α) (h : a ++ b = c.reverse) : b.reverse ++ a.reverse = c := by
    rw [← List.reverse_append, h, List.reverse_reverse]
  have hold := before _ _ _ hb.1
  have hnew := before _ _ _ hb.2
  constructor
  · simp only [cutAt, List.append_assoc, ha.1]
    rw [← List.append_assoc, hold, List.take_append_drop]
  · simp only [cutAt, List.append_assoc, ha.2]
    rw [← List.append_assoc, hnew, List.take_append_drop]

/-- The stretches of two lists. Items that are not telling begin no shared run, but a run goes on
over them. -/
def compareBy (telling : α → Bool) (old new : List α) : List (Piece α) :=
  let cut := cutAt (longestRun telling old new) old new
  if _shares : 0 < cut.common.length then
    (compareBy telling cut.oldBefore cut.newBefore).foldr Piece.onto
      (Piece.onto (.same cut.common) (compareBy telling cut.oldAfter cut.newAfter))
  else if old.isEmpty && new.isEmpty then []
  else [.change old new]
termination_by old.length + new.length
decreasing_by
  all_goals
    have h := cutAt_append (longestRun telling old new) old new
    have hold := congrArg List.length h.1
    have hnew := congrArg List.length h.2
    have hc : 0 < (cutAt (longestRun telling old new) old new).common.length := _shares
    simp only [List.length_append] at hold hnew
    omega

theorem old_compareBy (telling : α → Bool) (old new : List α) :
    (compareBy telling old new).flatMap Piece.old = old := by
  fun_induction compareBy telling old new with
  | case1 old new cut _ ih₁ ih₂ =>
    rw [old_foldr_onto, old_onto, ih₁, ih₂]
    exact (cutAt_append _ old new).1
  | case2 old new cut _ h =>
    simp only [Bool.and_eq_true, List.isEmpty_iff] at h
    simp [h.1]
  | case3 => simp [Piece.old]

theorem new_compareBy (telling : α → Bool) (old new : List α) :
    (compareBy telling old new).flatMap Piece.new = new := by
  fun_induction compareBy telling old new with
  | case1 old new cut _ ih₁ ih₂ =>
    rw [new_foldr_onto, new_onto, ih₁, ih₂]
    exact (cutAt_append _ old new).2
  | case2 old new cut _ h =>
    simp only [Bool.and_eq_true, List.isEmpty_iff] at h
    simp [h.2]
  | case3 => simp [Piece.new]

/-- Whether an item is rare enough in a list to tell where two lists agree. In a list of at least
200 items those that make up more than a hundredth of it are not. -/
def isTelling (new : List α) (x : α) : Bool :=
  new.length < 200 || new.count x ≤ new.length / 100 + 1

/-- The stretches of two lists. -/
def compare (old new : List α) : List (Piece α) := compareBy (isTelling new) old new

theorem old_compare (old new : List α) : (compare old new).flatMap Piece.old = old :=
  old_compareBy _ old new

theorem new_compare (old new : List α) : (compare old new).flatMap Piece.new = new :=
  new_compareBy _ old new

end FolderTalk.Diff
