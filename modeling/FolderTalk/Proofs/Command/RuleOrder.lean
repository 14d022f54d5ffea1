import FolderTalk.Proofs.Command.Destructive
import Mathlib

/-!
# Why the order of the rules matters

A text in which nested creation is written has simple creation written in it as well, and a text that
moves all files of an extension can be read as one that moves a file named "all ...". So the more
specific rule of either pair has to be tried first.

* `Rule.Shadows` : the one rule is found wherever the other is (`createSimple_shadows`,
  `moveFile_shadows`);
* `firstRuleOf_ne_of_shadows` : behind a rule that shadows it a rule is never the first that is found,
  whatever stands before and behind the two;
* `firstRuleOf_swapped` : so with either pair swapped the more specific rule is lost to every text.
-/

namespace FolderTalk.Command

open Text Pattern Rule

/-! ## Other orders of the rules -/

/-- The first rule of a list that is found in a command, with what it found. -/
def firstRuleOf (rules : List Rule) (command : List Char) : Option (Rule × Found) :=
  rules.findSome? fun r => (r.find command).map fun m => (r, m)

theorem firstRuleOf_all : firstRuleOf Rule.all = firstRule := rfl

/-- The rules in the order in which they are tried, with two of them in each other's place. -/
def Rule.swapped (r s : Rule) : List Rule := Rule.all.map (Equiv.swap r s)

/-- The first rule is found wherever the second is. -/
def Rule.Shadows (general specific : Rule) : Prop :=
  ∀ text, (specific.find text).isSome → (general.find text).isSome

section FirstRule
variable {rules before after : List Rule} {r general specific : Rule} {text : List Char} {m : Found}

theorem firstRuleOf_eq_some (h : firstRuleOf rules text = some (r, m)) :
    r ∈ rules ∧ r.find text = some m := by
  obtain ⟨s, hs, hfound⟩ := List.exists_of_findSome?_eq_some h
  obtain ⟨n, hn, heq⟩ := Option.map_eq_some_iff.mp hfound
  obtain ⟨rfl, rfl⟩ := Prod.mk.inj heq
  exact ⟨hs, hn⟩

/-- A rule that is found stops the search, if none before it did. -/
theorem firstRuleOf_append_cons (h : r.find text = some m) :
    firstRuleOf (before ++ r :: after) text = (firstRuleOf before text <|> some (r, m)) := by
  unfold firstRuleOf
  rw [List.findSome?_append, List.findSome?_cons, h]
  exact Option.or_eq_orElse

/-- **Behind a rule that shadows it**, a rule is never the first that is found. -/
theorem firstRuleOf_ne_of_shadows (hshadows : general.Shadows specific) (hne : general ≠ specific)
    (hbefore : specific ∉ before) :
    firstRuleOf (before ++ general :: after) text ≠ some (specific, m) := by
  intro h
  have hspecific := (firstRuleOf_eq_some h).2
  obtain ⟨n, hgeneral⟩ :=
    Option.isSome_iff_exists.mp (hshadows text (Option.isSome_of_mem hspecific))
  rw [firstRuleOf_append_cons hgeneral] at h
  rcases orElse_eq_some.mp h with h | ⟨_, h⟩
  · exact hbefore (firstRuleOf_eq_some h).1
  · exact hne (Prod.mk.inj (Option.some.inj h)).1

end FirstRule

/-! ## Where the general rules are written -/

/-- It is enough that every stretch of the second rule begins with one of the first. -/
theorem shadows_of_reads {general specific : Rule} (hgeneral : general.isWholeText = false)
    (hspecific : specific.isWholeText = false)
    (h : ∀ t, specific.pattern.Reads t → ∃ u v, t = u ++ v ∧ general.pattern.Reads u) :
    general.Shadows specific := by
  intro text hfound
  rw [find_isSome_iff hspecific] at hfound
  rw [find_isSome_iff hgeneral]
  obtain ⟨before, t, later, rfl, ht⟩ := hfound
  obtain ⟨u, v, rfl, hu⟩ := h t ht
  exact ⟨before, u, v ++ later, by simp only [List.append_assoc], hu⟩

/-- Nested creation begins like simple creation. -/
theorem createSimple_shadows : Rule.createSimple.Shadows Rule.createNested := by
  refine shadows_of_reads rfl rfl fun t ht => ?_
  obtain ⟨opening, _, rfl, hopening, name, rest, rfl, hname, _⟩ := ht
  exact ⟨opening ++ name, rest, (List.append_assoc ..).symm, opening, name, rfl, hopening, hname⟩

/-- A row of characters of file names is a file name without quotes. -/
theorem reads_fileName {t : List Char} (hne : t ≠ [])
    (h : ∀ c ∈ t, CharClass.fileName.contains c) : fileName.Reads t :=
  ⟨[], t, rfl, .inr rfl, t, [], (List.append_nil t).symm, ⟨hne, h⟩, .inr rfl⟩

theorem fileName_of_blank {c : Char} (h : CharClass.blank.contains c) :
    CharClass.fileName.contains c := by
  rw [CharClass.contains] at h
  rw [CharClass.contains, h, Bool.or_true, Bool.true_or, Bool.true_or]

theorem fileName_of_word {c : Char} (h : CharClass.word.contains c) :
    CharClass.fileName.contains c := by
  rw [CharClass.contains] at h
  rw [CharClass.contains, h, Bool.true_or, Bool.true_or, Bool.true_or]

/-- What moves all files of an extension can be read as moving one file, whose name begins with
"all" and goes on to the last white space before the word for the direction. -/
theorem moveFile_reads {t : List Char} (ht : Rule.moveByExtension.pattern.Reads t) :
    Rule.moveFile.pattern.Reads t := by
  obtain ⟨_, _, rfl, rfl, gap₁, _, rfl, hgap₁, _, _, rfl, rfl, gap₂, _, rfl, hgap₂, dot, _, rfl, hdot,
    ext, _, rfl, hext, gap₃, _, rfl, hgap₃, files, rest, rfl, hfiles, hrest⟩ := ht
  have hdotted : ∀ c ∈ dot, CharClass.fileName.contains c := by
    rcases hdot with rfl | rfl <;> exact List.all_eq_true.mp (by decide)
  have hname : ∀ more gap₄, (∀ c ∈ more, CharClass.fileName.contains c) →
      blanks.Reads gap₄ → Rule.moveFile.pattern.Reads
        ("move".toList ++ (gap₁ ++ (("all".toList ++ (gap₂ ++ (dot ++ (ext ++ more)))) ++
          (gap₄ ++ rest)))) := by
    intro more gap₄ hmore hgap₄
    refine ⟨_, _, rfl, rfl, gap₁, _, rfl, hgap₁, _, _, rfl, reads_fileName ?_ ?_, gap₄, rest, rfl,
      hgap₄, hrest⟩
    · exact List.append_ne_nil_of_left_ne_nil (by decide) _
    · simp only [List.forall_mem_append]
      exact ⟨List.all_eq_true.mp (by decide), fun c hc => fileName_of_blank (hgap₂.2 c hc), hdotted,
        fun c hc => fileName_of_word (hext.2 c hc), hmore⟩
  rcases hfiles with ⟨_, _, rfl, rfl, plural, gap₄, rfl, hplural, hgap₄⟩ | rfl
  · have hmore : ∀ c ∈ gap₃ ++ ("file".toList ++ plural), CharClass.fileName.contains c := by
      simp only [List.forall_mem_append]
      refine ⟨fun c hc => fileName_of_blank (hgap₃.2 c hc), List.all_eq_true.mp (by decide), ?_⟩
      rcases hplural with rfl | rfl <;> exact List.all_eq_true.mp (by decide)
    have h := hname _ gap₄ hmore hgap₄
    simp only [List.append_assoc] at h ⊢
    exact h
  · have h := hname [] gap₃ (List.forall_mem_nil _) hgap₃
    simp only [List.append_assoc, List.append_nil, List.nil_append] at h ⊢
    exact h

theorem moveFile_shadows : Rule.moveFile.Shadows Rule.moveByExtension :=
  shadows_of_reads rfl rfl fun t ht => ⟨t, [], (List.append_nil t).symm, moveFile_reads ht⟩

/-! ## The two pairs swapped -/

/-- **The order of the rules is needed.** Simple creation is found in every text in which nested
creation is, and moving one file in every text in which moving all files of an extension is. So with
the rules of either pair in each other's place, no text at all comes to the more specific one. -/
theorem firstRuleOf_swapped (text : List Char) :
    ((Rule.createNested.find text).isSome → (Rule.createSimple.find text).isSome) ∧
      ((Rule.moveByExtension.find text).isSome → (Rule.moveFile.find text).isSome) ∧
      (∀ m, firstRuleOf (swapped .createNested .createSimple) text ≠ some (.createNested, m)) ∧
      ∀ m, firstRuleOf (swapped .moveByExtension .moveFile) text ≠ some (.moveByExtension, m) := by
  have hcreate : swapped .createNested .createSimple =
      [undo, reset, renameFolder, deleteFolder] ++ .createSimple ::
        [.createNested, .moveByExtension, .moveFile, .list, .openFolder] := by decide
  have hmove : swapped .moveByExtension .moveFile =
      [undo, reset, renameFolder, deleteFolder, .createNested, .createSimple] ++ .moveFile ::
        [.moveByExtension, .list, .openFolder] := by decide
  refine ⟨createSimple_shadows text, moveFile_shadows text, fun m => ?_, fun m => ?_⟩
  · rw [hcreate]
    exact firstRuleOf_ne_of_shadows createSimple_shadows (by decide) (by decide)
  · rw [hmove]
    exact firstRuleOf_ne_of_shadows moveFile_shadows (by decide) (by decide)

/-- Two texts that come to the more specific rules, but to the others if these are tried first. -/
theorem firstRuleOf_swapped_both :
    let nested := "please create a folder called 'trips' inside media".toList
    let every := "move all .png files into my trips".toList
    (firstRule nested).map (·.1) = some .createNested ∧
      (firstRule every).map (·.1) = some .moveByExtension ∧
      (Rule.createNested.find nested).isSome ∧ (Rule.createSimple.find nested).isSome ∧
      (Rule.moveByExtension.find every).isSome ∧ (Rule.moveFile.find every).isSome ∧
      (firstRuleOf (swapped .createNested .createSimple) nested).map (·.1) = some .createSimple ∧
      (firstRuleOf (swapped .moveByExtension .moveFile) every).map (·.1) = some .moveFile := by
  intro nested every
  have hnested : (Rule.createNested.find nested).isSome := by decide +kernel
  have hevery : (Rule.moveByExtension.find every).isSome := by decide +kernel
  exact ⟨by decide +kernel, by decide +kernel, hnested, (firstRuleOf_swapped nested).1 hnested,
    hevery, (firstRuleOf_swapped every).2.1 hevery, by decide +kernel, by decide +kernel⟩

end FolderTalk.Command
