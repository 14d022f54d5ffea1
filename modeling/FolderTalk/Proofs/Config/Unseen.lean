import FolderTalk.Config.Change
import FolderTalk.Proofs.Config.Saved
import FolderTalk.Proofs.Diff.Unified

/-!
# Changes that are not seen

A change of the configuration file is shown as a diff without the lines that hold the mark of the
time of the last change. A removed or added line does not count as a change either if with its sign
it looks like the name of a text. A change in such lines only is taken for none.

* `changes?_eq_none_iff` : when no change is shown;
* `Orderly` : texts whose unseen lines are comments above the mapping;
* `read_eq_of_changes?_eq_none` : between orderly texts a change that is not shown is none.
-/

namespace FolderTalk

/-! ## Lines -/

namespace Text

variable {ls : List (List Char)} {cs : List Char}

theorem linesFrom_append {line rest : List Char} (h : ∀ c ∈ line, endsLine c = false)
    (done : List Char) :
    linesFrom done (line ++ '\n' :: rest) = (done.reverse ++ line) :: linesFrom [] rest := by
  induction line generalizing done with
  | nil =>
    rw [List.nil_append, linesFrom, if_pos (by decide), List.append_nil]
    rintro _ hc
    exact absurd hc (by decide)
  | cons c line ih =>
    obtain ⟨hc, hline⟩ := List.forall_mem_cons.mp h
    rw [List.cons_append, linesFrom, if_neg (by simp [hc]), ih hline]
    · simp
    · rintro _ rfl
      exact absurd hc (by decide)

/-- Lines are read off the text that they make up. -/
theorem lines_unlines (h : ∀ line ∈ ls, ∀ c ∈ line, endsLine c = false) :
    lines (Yaml.unlines ls) = ls := by
  induction ls with
  | nil => rfl
  | cons line ls ih =>
    obtain ⟨hline, hls⟩ := List.forall_mem_cons.mp h
    rw [Yaml.unlines, List.flatMap_cons, List.append_assoc, lines, List.singleton_append,
      linesFrom_append hline, List.reverse_nil, List.nil_append]
    exact congrArg (line :: ·) (ih hls)

/-- A text with no other line ends than line feeds, one at its end, is made up of lines. -/
theorem exists_unlines (h : ∀ c ∈ cs, endsLine c → c = '\n') (hends : ∀ c ∈ cs.getLast?, c = '\n') :
    ∃ ls, cs = Yaml.unlines ls ∧ ∀ line ∈ ls, ∀ c ∈ line, endsLine c = false := by
  induction cs with
  | nil => exact ⟨[], rfl, List.forall_mem_nil _⟩
  | cons c cs ih =>
    obtain ⟨hc, hcs⟩ := List.forall_mem_cons.mp h
    have hrest : ∀ d ∈ cs.getLast?, d = '\n' := by
      intro d hd
      exact hends d (by rw [List.getLast?_cons, hd]; rfl)
    obtain ⟨ls, rfl, hls⟩ := ih hcs hrest
    by_cases hbreak : c = '\n'
    · exact ⟨[] :: ls, by rw [hbreak]; rfl, List.forall_mem_cons.mpr ⟨List.forall_mem_nil _, hls⟩⟩
    · have hletter : endsLine c = false := (Bool.not_eq_true _).mp fun hc' => hbreak (hc hc')
      cases ls with
      | nil => exact absurd (hends c rfl) hbreak
      | cons line ls =>
        obtain ⟨hline, hls⟩ := List.forall_mem_cons.mp hls
        exact ⟨(c :: line) :: ls, rfl, List.forall_mem_cons.mpr
          ⟨List.forall_mem_cons.mpr ⟨hletter, hline⟩, hls⟩⟩

/-- The characters of a YAML text that end a line are those that break one there. -/
theorem endsLine_of_isPermitted {c : Char} (h : Yaml.isPermitted c) (hbreak : Yaml.isBreak c = false) :
    endsLine c = false := by
  rw [← Bool.not_eq_true]
  intro hends
  simp only [Yaml.isPermitted, endsLine, Bool.or_eq_true, Bool.and_eq_true, beq_iff_eq,
    decide_eq_true_eq] at h hends
  have hcode : c.toNat = 10 ∨ c.toNat = 13 ∨ c.toNat = 0x85 ∨ c.toNat = 0x2028 ∨ c.toNat = 0x2029 := by
    omega
  have hall : ∀ n ∈ [10, 13, 0x85, 0x2028, 0x2029], Yaml.isBreak (Char.ofNat n) := by decide
  have hmem : c.toNat ∈ [10, 13, 0x85, 0x2028, 0x2029] := by simpa using hcode
  have htrue := hall c.toNat hmem
  rw [Char.ofNat_toNat, hbreak] at htrue
  cases htrue

end Text

namespace ConfigFile

open Diff

/-! ## Lines that do not count -/

/-- Whether a line with a sign in front of it is left out of a diff or is taken for the name of a
text. -/
def isUnseen (sign : Char) (line : List Char) : Bool :=
  isStamped line || [sign, sign].isPrefixOf line

/-- Whether a line is seen both when it is removed and when it is added. -/
def isSeen (line : List Char) : Bool := !isUnseen '-' line && !isUnseen '+' line

variable {before after : String} {text : List Char} {line : List Char}

theorem isStamped_cons {sign : Char} (hsign : sign ≠ '#') (line : List Char) :
    isStamped (sign :: line) = isStamped line := by
  have hmark : stampMark.toList = '#' :: stampMark.toList.tail := by decide
  unfold isStamped
  rw [Text.isStretch, hmark, List.isPrefixOf, beq_eq_false_iff_ne.mpr hsign.symm, Bool.false_and,
    Bool.false_or]

/-- Which lines of a diff count as changes. -/
theorem counts_iff {sign : Char} (hsign : sign = '-' ∨ sign = '+') (line : List Char) :
    (!isStamped (sign :: line) && isChange (sign :: line)) = !isUnseen sign line := by
  rcases hsign with rfl | rfl <;>
    simp [isStamped_cons, isUnseen, isChange, isFileName, List.isPrefixOf]

/-- Which removed and added lines show a change. -/
theorem changes_any_iff (before after : String) : (changes before after).any isChange ↔
    ∃ p ∈ Diff.compare (Text.lines before.toList) (Text.lines after.toList),
      (∃ line ∈ p.removed, !isUnseen '-' line) ∨ ∃ line ∈ p.added, !isUnseen '+' line := by
  have hplain : ∀ sign line, sign ≠ '-' → sign ≠ '+' →
      (!isStamped (sign :: line) && isChange (sign :: line)) = false := by
    intro sign line hminus hplus
    simp [isChange, hminus, hplus]
  rw [changes, List.any_filter, unified_any_iff (by decide) (by decide)
    (fun line => hplain '@' line (by decide) (by decide))
    (fun line => hplain ' ' line (by decide) (by decide))]
  simp only [counts_iff (.inl rfl), counts_iff (.inr rfl)]

/-- **No change is shown** exactly if all removed and added lines are unseen. -/
theorem changes?_eq_none_iff (before after : String) : changes? before after = none ↔
    ∀ p ∈ Diff.compare (Text.lines before.toList) (Text.lines after.toList),
      (∀ line ∈ p.removed, isUnseen '-' line) ∧ ∀ line ∈ p.added, isUnseen '+' line := by
  have hnone : changes? before after = none ↔ ¬(changes before after).any isChange := by
    unfold changes?
    dsimp only
    split <;> simp_all
  rw [hnone, changes_any_iff]
  simp only [Bool.not_eq_true', not_exists, not_and, not_or, Bool.not_eq_false]

theorem changes?_ofList (before after : List Char) :
    changes? (String.ofList before) (String.ofList after) =
      let lines := (Diff.unified "config.yaml (before)" "config.yaml (after)" (Text.lines before)
        (Text.lines after)).filter (!isStamped ·)
      if lines.any isChange then some lines else none := by
  unfold changes? changes
  rw [String.toList_ofList, String.toList_ofList]

/-- A change is shown below the name of the text before it. -/
theorem changes?_eq_some {lines : List (List Char)} (h : changes? before after = some lines) :
    ∃ more, lines = "--- config.yaml (before)".toList :: more := by
  unfold changes? at h
  dsimp only at h
  split at h
  · next hany =>
    rw [← Option.some.inj h]
    unfold changes Diff.unified at hany ⊢
    split
    · next hnone =>
      rw [hnone] at hany
      cases hany
    · exact ⟨_, List.filter_cons_of_pos (by decide)⟩
  · cases h

/-- If no change is shown, the lines that are seen are the same. -/
theorem filter_isSeen_eq (h : changes? before after = none) :
    (Text.lines before.toList).filter isSeen = (Text.lines after.toList).filter isSeen := by
  refine compare_filter fun p hp => ?_
  obtain ⟨hremoved, hadded⟩ := (changes?_eq_none_iff before after).mp h p hp
  exact ⟨fun line hline => by simp [isSeen, hremoved line hline],
    fun line hline => by simp [isSeen, hadded line hline]⟩

/-! ## Texts with comments above -/

/-- A text made of comments and, below them, lines that are seen. -/
structure Arranged (text : List Char) (comments rest : List (List Char)) : Prop where
  text_eq : text = Yaml.unlines (comments ++ rest)
  comment : ∀ line ∈ comments, Yaml.CommentLine line
  seen : ∀ line ∈ rest, isSeen line
  unbroken : ∀ line ∈ rest, ∀ c ∈ line, Text.endsLine c = false
  unmarked : (Yaml.unlines rest).head? ≠ some '\ufeff'

/-- A text whose unseen lines are comments above its other lines. -/
def Orderly (text : List Char) : Prop := ∃ comments rest, Arranged text comments rest

variable {comments rest : List (List Char)}

theorem unlines_append (xs ys : List (List Char)) :
    Yaml.unlines (xs ++ ys) = Yaml.unlines xs ++ Yaml.unlines ys := List.flatMap_append

namespace Arranged

theorem lines_eq (h : Arranged text comments rest) : Text.lines text = comments ++ rest := by
  rw [h.text_eq]
  refine Text.lines_unlines (List.forall_mem_append.mpr ⟨fun line hline c hc => ?_, h.unbroken⟩)
  have hcomment := h.comment line hline
  exact Text.endsLine_of_isPermitted (hcomment.permitted c hc) (hcomment.unbroken c hc)

/-- The comments make no difference to what is read. -/
theorem read_eq (h : Arranged text comments rest) :
    Yaml.read (String.ofList text) = Yaml.read (String.ofList (Yaml.unlines rest)) := by
  rw [h.text_eq, unlines_append, Yaml.read_comments h.comment h.unmarked]

/-- The lines that are seen are a text of this kind, with the same lines below the comments. -/
theorem visible (h : Arranged text comments rest) : Arranged
    (Yaml.unlines ((Text.lines text).filter isSeen)) (comments.filter isSeen) rest where
  text_eq := by rw [h.lines_eq, List.filter_append, List.filter_eq_self.mpr h.seen]
  comment line hline := h.comment line (List.mem_filter.mp hline).1
  seen := h.seen
  unbroken := h.unbroken
  unmarked := h.unmarked

end Arranged

/-- What is read of an orderly text is what is read of the lines that are seen. -/
theorem read_visible (h : Orderly text) : Yaml.read (String.ofList text) =
    Yaml.read (String.ofList (Yaml.unlines ((Text.lines text).filter isSeen))) := by
  obtain ⟨comments, rest, harranged⟩ := h
  rw [harranged.read_eq, harranged.visible.read_eq]

/-- **Between orderly texts** a change that is not shown does not change what is read. -/
theorem parse_eq_of_changes?_eq_none (hbefore : Orderly before.toList) (hafter : Orderly after.toList)
    (h : changes? before after = none) : parse after = parse before := by
  have hread := read_visible hafter
  rw [← filter_isSeen_eq h, ← read_visible hbefore, String.ofList_toList, String.ofList_toList] at hread
  unfold parse
  rw [hread]

theorem endsLine_of_isSimple {c : Char} (h : Yaml.isSimple [c]) (hends : Text.endsLine c) :
    c = '\n' := by
  simp only [Yaml.isSimple, List.all_cons, List.all_nil, Bool.and_true, Bool.or_eq_true, beq_iff_eq,
    Bool.and_eq_true, decide_eq_true_eq] at h
  refine h.resolve_right fun hprinted => ?_
  have hcode : 32 ≤ c.toNat ∧ c.toNat ≤ 126 := hprinted
  simp only [Text.endsLine, Bool.or_eq_true, Bool.and_eq_true, beq_iff_eq, decide_eq_true_eq] at hends
  omega

/-- **A saved text** is orderly if all lines of what is written below the header are seen. -/
theorem orderly_saved {es : Entries} {stamp body : String} (hstamp : OneLine stamp)
    (hbody : Yaml.write es = .ok body) (hseen : ∀ line ∈ Text.lines body.toList, isSeen line) :
    Orderly (Yaml.unlines (headerLines stamp) ++ body.toList) := by
  have hsimple := Yaml.write_simple hbody
  have hmark := head?_ne_mark hbody
  obtain ⟨rest, hrest, hunbroken⟩ := Text.exists_unlines
    (fun c hc => endsLine_of_isSimple (hsimple c hc)) (Yaml.write_ends hbody)
  rw [hrest] at hseen hmark ⊢
  rw [Text.lines_unlines hunbroken] at hseen
  exact ⟨headerLines stamp, rest, (unlines_append _ _).symm, headerLines_comment hstamp, hseen,
    hunbroken, hmark⟩

/-! ## Assignments -/

variable {f : ConfigFile} {key value : String}

/-- What an assignment saves. -/
theorem assign_eq_save (h : (f.assign key value).2 = none) : ∃ es body,
    f.assigned key value = .ok es ∧ Yaml.write es = .ok body ∧
      (f.assign key value).1 = (f.save es).1 := by
  unfold assign at h ⊢
  split at h
  · cases h
  · next es hes =>
    unfold saveChecked at h ⊢
    split at h
    · cases h
    · next c hc =>
      cases hbody : Yaml.write es with
      | error fault =>
        simp only [save, hbody] at h
        cases h
      | ok body =>
        refine ⟨es, body, hes, hbody, ?_⟩
        simp only [save, hbody]

/-- **An assignment that shows no change** leaves the mapping in the file as it was, if the file was
orderly and all lines of the mapping that is written are seen. -/
theorem entries_eq_of_unreported (hassign : (f.assign key value).2 = none)
    (hstamp : OneLine (f.stamp (f.saves + 1))) (hbefore : Orderly f.read.toList)
    (hseen : ∀ es body, f.assigned key value = .ok es → Yaml.write es = .ok body →
      ∀ line ∈ Text.lines body.toList, isSeen line)
    (h : changes? f.read (f.assign key value).1.read = none) :
    (f.assign key value).1.entries = f.entries := by
  obtain ⟨es, body, hes, hbody, hsave⟩ := assign_eq_save hassign
  have htext := (text_save f hbody).2
  rw [← hsave] at htext
  have hafter : Orderly (f.assign key value).1.read.toList := by
    rw [read_saved hstamp hbody htext, String.toList_ofList]
    exact orderly_saved hstamp hbody (hseen es body hes hbody)
  rw [entries_eq_parse, entries_eq_parse]
  exact parse_eq_of_changes?_eq_none hbefore hafter h

end ConfigFile

end FolderTalk
