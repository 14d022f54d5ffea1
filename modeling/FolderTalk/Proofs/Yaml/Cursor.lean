import FolderTalk.Yaml.Scalar
import Mathlib.Data.List.TakeWhile

/-!
# Moving over YAML text

What is left of a text behind a cursor that has moved. Where a line ends and which column the cursor
stands at decides nothing inside of a flow collection.
-/

namespace FolderTalk.Yaml

namespace Cursor

variable {c : Cursor}

theorem next_rest (c : Cursor) : c.next.rest = c.rest.tail := by
  unfold next
  split
  · next h => rw [h, List.tail_nil]
  · next h =>
    rw [h, List.tail_cons]
    split <;> rfl

theorem next_rest_of_cons {ch : Char} {cs : List Char} (hc : c.rest = ch :: cs) :
    c.next.rest = cs := by
  rw [next_rest, hc, List.tail_cons]

theorem skip_rest (n : Nat) (c : Cursor) : (c.skip n).rest = c.rest.drop n := by
  induction n generalizing c with
  | zero => rfl
  | succ n ih => rw [skip, ih, next_rest, List.drop_tail]

theorem skip_rest_of_append {run cs : List Char} (hc : c.rest = run ++ cs) :
    (c.skip run.length).rest = cs := by
  rw [skip_rest, hc, List.drop_left]

theorem skip_rest_of_blanks {n : Nat} {cs : List Char} (hc : c.rest = List.replicate n ' ' ++ cs) :
    (c.skip n).rest = cs := by
  rw [skip_rest, hc, List.drop_left' List.length_replicate]

theorem peek_of_cons {ch : Char} {cs : List Char} (hc : c.rest = ch :: cs) : c.peek = ch := by
  rw [peek, hc]
  rfl

theorem span_cons_of_pos {p : Char → Bool} {ch : Char} {cs : List Char} (hc : c.rest = ch :: cs)
    (h : p ch) : c.span p = (ch :: (c.next.span p).1, (c.next.span p).2) := by
  unfold span
  rw [next_rest, hc, List.takeWhile_cons_of_pos h]
  rfl

theorem span_append {p : Char → Bool} {run cs : List Char} (hc : c.rest = run ++ cs)
    (hrun : ∀ ch ∈ run, p ch) (hcs : ∀ ch ∈ cs.head?, p ch = false) :
    c.span p = (run, c.skip run.length) := by
  have hstop : cs.takeWhile p = [] := by
    cases cs with
    | nil => rfl
    | cons ch cs => exact List.takeWhile_cons_of_neg (by simp [hcs ch rfl])
  unfold span
  rw [hc, List.takeWhile_append_of_pos hrun, hstop, List.append_nil]

theorem span_of_head {p : Char → Bool} (h : ∀ ch ∈ c.rest.head?, p ch = false) :
    c.span p = ([], c) :=
  span_append (List.nil_append _).symm (List.forall_mem_nil _) h

theorem span_cons_of_neg {p : Char → Bool} {ch : Char} {cs : List Char} (hc : c.rest = ch :: cs)
    (h : p ch = false) : c.span p = ([], c) := by
  apply span_of_head
  intro d hd
  rw [hc] at hd
  rwa [← Option.mem_some_iff.mp hd]

theorem lineBreak_of_newLine {cs : List Char} (hc : c.rest = '\n' :: cs) :
    c.lineBreak = (['\n'], c.next) := by
  unfold lineBreak
  rw [hc]
  rfl

/-- A line that begins with a blank or a line feed separates no documents. -/
theorem atSeparator_of_cons {ch : Char} {cs : List Char} (hc : c.rest = ch :: cs) (hline : ch ≠ '-')
    (hpoint : ch ≠ '.') : c.atSeparator = false := by
  simp [atSeparator, atMarks, hc, hline, hpoint]

end Cursor

/-! ## What a text goes on with -/

/-- Text that goes on with something else than white space. -/
def Solid (cs : List Char) : Prop := ∀ c ∈ cs.head?, endsWord c = false

theorem solid_nil : Solid [] := by
  intro c hc
  cases hc

theorem solid_cons {c : Char} {cs : List Char} (h : endsWord c = false) : Solid (c :: cs) := by
  intro d hd
  rwa [← Option.mem_some_iff.mp hd]

theorem Solid.append {cs ds : List Char} (h : Solid cs) (h' : Solid ds) : Solid (cs ++ ds) := by
  cases cs with
  | nil => exact h'
  | cons c cs => exact solid_cons (h c rfl)

/-- The characters that end a word. -/
theorem mem_of_endsWord {c : Char} (h : endsWord c) :
    c ∈ [' ', '\t', '\n', '\r', '\x85', '\u2028', '\u2029', '\x00'] := by
  simpa [endsWord, isBreak, isEnd, or_assoc] using h

theorem isSpaceOrTab_of_endsWord {c : Char} (h : endsWord c = false) : isSpaceOrTab c = false := by
  simp only [endsWord, Bool.or_eq_false_iff] at h
  simp [isSpaceOrTab, h]

theorem isBreak_of_endsWord {c : Char} (h : endsWord c = false) : isBreak c = false := by
  simp only [endsWord, Bool.or_eq_false_iff] at h
  exact h.1.2

theorem isEnd_of_endsWord {c : Char} (h : endsWord c = false) : isEnd c = false := by
  simp only [endsWord, Bool.or_eq_false_iff] at h
  exact h.2

theorem Solid.dropWhile_eq {cs : List Char} (h : Solid cs) : cs.dropWhile isSpaceOrTab = cs := by
  cases cs with
  | nil => rfl
  | cons c cs =>
    exact List.dropWhile_cons_of_neg (by simp [isSpaceOrTab_of_endsWord (h c rfl)])

theorem peek_ne_blank {c : Cursor} (h : Solid c.rest) : c.peek ≠ ' ' := by
  unfold Cursor.peek
  cases hrest : c.rest with
  | nil => decide
  | cons ch cs =>
    rintro rfl
    exact absurd (h ' ' (by rw [hrest]; rfl)) (by decide)

theorem isBreak_peek {c : Cursor} (h : Solid c.rest) : isBreak c.peek = false := by
  unfold Cursor.peek
  cases hrest : c.rest with
  | nil => rfl
  | cons ch cs => exact isBreak_of_endsWord (h ch (by rw [hrest]; rfl))

end FolderTalk.Yaml
