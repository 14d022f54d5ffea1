import FolderTalk.Proofs.Command.Language
import FolderTalk.Proofs.Command.Spaced

/-!
# Plain operands

An operand of a command is plain when its words hold nothing that a command itself is made of: no
structure word stands among them and none of them ends in a command word. An operand may be put
between a pair of quotes.

* `Operand.text`, `Operand.chunks` : the operand as it is written and the words of that text
  (`spaced_chunks`);
* `Operand.Plain.chunk_quiet` : quotes or not, no chunk can be taken for a part of a command.
-/

namespace FolderTalk.Command

open Text Pattern

/-! ## Words that commands are made of -/

/-- The words inside commands. -/
def structureWords : List (List Char) :=
  ["to", "into", "in", "inside", "within", "under", "folder", "called", "named", "a", "new", "all",
    "file", "files"].map String.toList

/-- The words that commands begin with. -/
def commandWords : List (List Char) :=
  ["rename", "delete", "create", "move", "open", "list", "show", "display"].map String.toList

/-- A word that commands leave alone: characters of the class other than white space, in small
letters, no structure word, and not ending in a command word. -/
structure PlainWord (cls : CharClass) (w : List Char) : Prop where
  nonempty : w ≠ []
  within : ∀ c ∈ w, cls.contains c ∧ isBlank c = false
  small : lower w = w
  free : w ∉ structureWords
  ending : ∀ k ∈ commandWords, ¬ k <:+ w

/-- The quotes around an operand. -/
inductive Quotes where
  | absent | single | double
  deriving DecidableEq, Repr

def Quotes.mark : Quotes → List Char
  | absent => []
  | single => ['\'']
  | double => ['"']

/-- The words of an operand and the quotes around them. -/
structure Operand where
  words : List (List Char)
  quotes : Quotes := .absent
  deriving DecidableEq, Repr

namespace Operand

/-- What the operand says. -/
def phrase (o : Operand) : List Char := spaced o.words

/-- How the operand is written. -/
def text (o : Operand) : List Char := o.quotes.mark ++ o.phrase ++ o.quotes.mark

/-- One or more plain words. -/
structure Plain (cls : CharClass) (o : Operand) : Prop where
  nonempty : o.words ≠ []
  plain : ∀ w ∈ o.words, PlainWord cls w

/-- The words with a mark at the end of the last one. -/
def closing (mark : List Char) : List (List Char) → List (List Char)
  | [] => []
  | [w] => [w ++ mark]
  | w :: v :: ws => w :: closing mark (v :: ws)

/-- The words with a mark before the first one. -/
def opening (mark : List Char) : List (List Char) → List (List Char)
  | [] => []
  | w :: ws => (mark ++ w) :: ws

/-- The words of the written operand. -/
def chunks (o : Operand) : List (List Char) :=
  opening o.quotes.mark (closing o.quotes.mark o.words)

theorem closing_ne_nil {mark : List Char} {ws : List (List Char)} (h : ws ≠ []) :
    closing mark ws ≠ [] := by
  match ws with
  | [] => exact absurd rfl h
  | [w] => simp [closing]
  | w :: v :: ws => simp [closing]

theorem spaced_closing (mark : List Char) {ws : List (List Char)} (h : ws ≠ []) :
    spaced (closing mark ws) = spaced ws ++ mark := by
  induction ws with
  | nil => exact absurd rfl h
  | cons w ws ih =>
    cases ws with
    | nil => rfl
    | cons v ws =>
      rw [closing, spaced_cons w (closing_ne_nil (by simp)), ih (by simp), spaced_cons w (by simp),
        List.append_assoc, List.cons_append]

theorem spaced_opening (mark : List Char) {ws : List (List Char)} (h : ws ≠ []) :
    spaced (opening mark ws) = mark ++ spaced ws := by
  match ws with
  | [] => exact absurd rfl h
  | [w] => rfl
  | w :: v :: ws => rw [opening, spaced, spaced, List.append_assoc]

theorem chunks_ne_nil {o : Operand} (h : o.words ≠ []) : o.chunks ≠ [] := by
  unfold chunks
  cases hc : closing o.quotes.mark o.words with
  | nil => exact absurd hc (closing_ne_nil h)
  | cons w ws => simp [opening]

theorem spaced_chunks {o : Operand} (h : o.words ≠ []) : spaced o.chunks = o.text := by
  rw [chunks, spaced_opening _ (closing_ne_nil h), spaced_closing _ h, text, phrase,
    List.append_assoc]

/-- A chunk is a word with at most a mark on either side. -/
theorem exists_word_of_mem_chunks {o : Operand} {x : List Char} (h : x ∈ o.chunks) :
    ∃ w ∈ o.words, ∃ pre post, x = pre ++ w ++ post ∧
      (pre = [] ∨ pre = o.quotes.mark) ∧ (post = [] ∨ post = o.quotes.mark) := by
  have hclosing : ∀ (ws : List (List Char)) (y : List Char), y ∈ closing o.quotes.mark ws →
      ∃ w ∈ ws, ∃ post, y = w ++ post ∧ (post = [] ∨ post = o.quotes.mark) := by
    intro ws
    induction ws with
    | nil => simp [closing]
    | cons w ws ih =>
      intro y hy
      cases ws with
      | nil => exact ⟨w, by simp, o.quotes.mark, by simpa [closing] using hy, .inr rfl⟩
      | cons v ws =>
        rw [closing] at hy
        rcases List.mem_cons.mp hy with rfl | hy
        · exact ⟨y, by simp, [], by simp, .inl rfl⟩
        · obtain ⟨u, hu, post, hpost⟩ := ih y hy
          exact ⟨u, List.mem_cons_of_mem _ hu, post, hpost⟩
  unfold chunks at h
  cases hc : closing o.quotes.mark o.words with
  | nil => simp [hc, opening] at h
  | cons y ys =>
    rw [hc, opening] at h
    rcases List.mem_cons.mp h with rfl | h
    · obtain ⟨w, hw, post, rfl, hpost⟩ := hclosing o.words y (by rw [hc]; simp)
      exact ⟨w, hw, o.quotes.mark, post, by rw [List.append_assoc], .inr rfl, hpost⟩
    · obtain ⟨w, hw, post, rfl, hpost⟩ := hclosing o.words x (by rw [hc]; simp [h])
      exact ⟨w, hw, [], post, rfl, .inl rfl, hpost⟩

end Operand

/-! ## Quotes do not turn a plain word into a command's word -/

/-- A text without quotes. -/
def Unquoted (w : List Char) : Prop := ∀ c ∈ w, CharClass.quote.contains c = false

instance : DecidablePred Unquoted := fun w => List.decidableBAll _ w

theorem mark_quote {q : Quotes} {c : Char} (h : c ∈ q.mark) : CharClass.quote.contains c := by
  cases q <;> simp [Quotes.mark] at h <;> subst h <;> rfl

theorem mark_solid (q : Quotes) : Solid q.mark := by
  cases q <;> decide

theorem mark_small (q : Quotes) : Small q.mark := by
  cases q <;> decide

/-- What is no quote and ends a word with quotes around it ends the word. -/
theorem suffix_of_suffix_marked {k pre w post : List Char} (hk : k ≠ [])
    (hplain : Unquoted k)
    (hpre : ∀ c ∈ pre, CharClass.quote.contains c) (hpost : ∀ c ∈ post, CharClass.quote.contains c)
    (h : k <:+ pre ++ w ++ post) : k <:+ w := by
  have hempty : ∀ u : List Char, u ⊆ k → (∀ c ∈ u, CharClass.quote.contains c) → u = [] := by
    intro u hu hquote
    rw [List.eq_nil_iff_forall_not_mem]
    intro c hc
    have hnot := hquote c hc
    rw [hplain c (hu hc)] at hnot
    cases hnot
  have hpost : post = [] := by
    rcases List.suffix_or_suffix_of_suffix h (List.suffix_append (pre ++ w) post) with hin | hover
    · exact absurd (hempty k (List.Subset.refl k) fun c hc => hpost c (hin.subset hc)) hk
    · exact hempty post hover.subset hpost
  rw [hpost, List.append_nil] at h
  rcases List.suffix_or_suffix_of_suffix h (List.suffix_append pre w) with hin | ⟨x, rfl⟩
  · exact hin
  · obtain ⟨y, hy⟩ := h
    rw [← List.append_assoc] at hy
    have hx : x ⊆ pre := by
      rw [← List.append_cancel_right hy]
      exact List.subset_append_right y x
    obtain rfl := hempty x (List.subset_append_left x w) fun c hc => hpre c (hx hc)
    exact List.suffix_refl w

/-- A word of a text that no part of a command is found in. -/
structure Quiet (w : List Char) : Prop where
  nonempty : w ≠ []
  solid : Solid w
  small : Small w
  free : w ∉ structureWords
  ending : ∀ k ∈ commandWords, ¬ k <:+ w

theorem PlainWord.quiet {cls : CharClass} {w : List Char} (h : PlainWord cls w) : Quiet w where
  nonempty := h.nonempty
  solid := fun c hc => (h.within c hc).2
  small := small_of_lower_eq h.small
  free := h.free
  ending := h.ending

/-- **The words of a written operand are quiet**, with quotes at its ends or without. -/
theorem Operand.Plain.chunk_quiet {cls : CharClass} {o : Operand} (h : o.Plain cls)
    {x : List Char} (hx : x ∈ o.chunks) : Quiet x := by
  obtain ⟨w, hw, pre, post, rfl, hpre, hpost⟩ := exists_word_of_mem_chunks hx
  have hword := (h.plain w hw).quiet
  have hmark : ∀ u : List Char, u = [] ∨ u = o.quotes.mark →
      Solid u ∧ Small u ∧ ∀ c ∈ u, CharClass.quote.contains c := by
    rintro u (rfl | rfl)
    · exact ⟨List.forall_mem_nil _, List.forall_mem_nil _, List.forall_mem_nil _⟩
    · exact ⟨mark_solid _, mark_small _, fun c => mark_quote⟩
  obtain ⟨hpreSolid, hpreSmall, hpreQuote⟩ := hmark pre hpre
  obtain ⟨hpostSolid, hpostSmall, hpostQuote⟩ := hmark post hpost
  have hends : ∀ k : List Char, k ≠ [] → Unquoted k → k <:+ pre ++ w ++ post → k <:+ w :=
    fun k hk hplain => suffix_of_suffix_marked hk hplain hpreQuote hpostQuote
  refine ⟨by simp [hword.nonempty], ?_, ?_, ?_, ?_⟩
  · exact List.forall_mem_append.mpr ⟨List.forall_mem_append.mpr ⟨hpreSolid, hword.solid⟩, hpostSolid⟩
  · exact small_append.mpr ⟨small_append.mpr ⟨hpreSmall, hword.small⟩, hpostSmall⟩
  · intro hmem
    have hquotes : ∀ k ∈ structureWords, Unquoted k := by decide
    have hwhole := hends _ (by simp [hword.nonempty]) (hquotes _ hmem) (List.suffix_refl _)
    rw [hwhole.eq_of_length_le (by simp; omega)] at hmem
    exact hword.free hmem
  · intro k hk hsuffix
    have hquotes : ∀ k ∈ commandWords, k ≠ [] ∧ Unquoted k := by decide
    exact hword.ending k hk (hends k (hquotes k hk).1 (hquotes k hk).2 hsuffix)

end FolderTalk.Command
