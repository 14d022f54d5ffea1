import FolderTalk.Proofs.Yaml.Quoting

/-!
# Plain scalars are read back

A plain scalar is words with blanks between them. Inside a flow collection a blank may be written as
a line break.

* `PlainWriting` : the ways to write a plain scalar;
* `PlainWriting.read` : each of them is read as the text;
* `Plain.writes` : what is written is one of them.
-/

namespace FolderTalk.Yaml

open Page

/-! ## Ways to write a plain scalar -/

/-- A word that stands for itself in a plain scalar. -/
structure PlainWord (flow : Bool) (word : List Char) : Prop where
  nonempty : word ≠ []
  visible : ∀ c ∈ word, isSimple [c] ∧ c ≠ ' ' ∧ c ≠ '\n'
  marks : hasBlockMark ' ' word = false
  flowMarks : flow → ∀ c ∈ word, isFlowMark c = false ∧ c ≠ '?' ∧ c ≠ ':'

/-- The ways to write what follows after a word of a plain scalar. -/
inductive PlainTail (flow : Bool) : (text written : List Char) → Prop where
  | nil : PlainTail flow [] []
  | blanks {word text written : List Char} (n : Nat) : PlainWord flow word →
      PlainTail flow text written →
      PlainTail flow (List.replicate (n + 1) ' ' ++ (word ++ text))
        (List.replicate (n + 1) ' ' ++ (word ++ written))
  | fold {word text written : List Char} (indent : Nat) : flow → PlainWord flow word →
      PlainTail flow text written →
      PlainTail flow (' ' :: (word ++ text))
        ('\n' :: ' ' :: (List.replicate indent ' ' ++ (word ++ written)))

/-- The ways to write a plain scalar. -/
inductive PlainWriting (flow : Bool) : (text written : List Char) → Prop where
  | words {word text written : List Char} : PlainWord flow word → PlainTail flow text written →
      PlainWriting flow (word ++ text) (word ++ written)

theorem PlainWriting.blanks {flow : Bool} {text written : List Char}
    (h : PlainWriting flow text written) (n : Nat) :
    PlainTail flow (List.replicate (n + 1) ' ' ++ text) (List.replicate (n + 1) ' ' ++ written) := by
  cases h with
  | words hword htail => exact .blanks n hword htail

theorem PlainWriting.fold {flow : Bool} {text written : List Char}
    (h : PlainWriting flow text written) (hflow : flow) (indent : Nat) :
    PlainTail flow (' ' :: text) ('\n' :: ' ' :: (List.replicate indent ' ' ++ written)) := by
  cases h with
  | words hword htail => exact .fold indent hflow hword htail

/-- What a plain scalar in front of other text stops at. -/
def StopsPlain (flow : Bool) (after : List Char) : Prop :=
  ∀ c ∈ after.head?, flow ∧ isFlowMark c

/-! ## Reading -/

theorem endsWord_of_isSimple {c : Char} (h : isSimple [c]) (hblank : c ≠ ' ') (hline : c ≠ '\n') :
    endsWord c = false := by
  rw [← Bool.not_eq_true]
  intro hends
  have hothers : ∀ d ∈ ['\t', '\r', '\x85', '\u2028', '\u2029', '\x00'], ¬ isSimple [d] :=
    List.any_eq_false.mp (by decide)
  have hmem := mem_of_endsWord hends
  simp only [List.mem_cons, hblank, hline, false_or] at hmem
  exact hothers c (by simpa using hmem) h

variable {flow : Bool} {word : List Char}

theorem PlainWord.solid_append (h : PlainWord flow word) (rest : List Char) : Solid (word ++ rest) := by
  obtain ⟨c, cs, rfl⟩ := List.exists_cons_of_ne_nil h.nonempty
  obtain ⟨hsimple, hblank, hline⟩ := h.visible c List.mem_cons_self
  exact solid_cons (endsWord_of_isSimple hsimple hblank hline)

/-- A character that a word ends in front of. -/
def EndsPlainWord (flow : Bool) (rest : List Char) : Prop :=
  ∀ c ∈ rest.head?, endsWord c ∨ flow ∧ isFlowMark c

/-- A word of a plain scalar is read to its end. -/
theorem plainWord_append {rest : List Char} (hrest : EndsPlainWord flow rest) (before : Char)
    (hvisible : ∀ c ∈ word, endsWord c = false) (hmarks : hasBlockMark before word = false)
    (hflow : flow → ∀ c ∈ word, isFlowMark c = false ∧ c ≠ '?' ∧ c ≠ ':') :
    plainWord flow (word ++ rest) = word := by
  induction word generalizing before with
  | nil =>
    cases rest with
    | nil => rfl
    | cons c rest =>
      rw [List.nil_append, plainWord, if_pos]
      have hc := hrest c rfl
      simp only [Bool.or_eq_true, Bool.and_eq_true]
      rcases hc with hc | ⟨hflow, hc⟩
      · exact .inl (.inl hc)
      · exact .inr ⟨hflow, .inl hc⟩
  | cons c word ih =>
    obtain ⟨hc, hvisible⟩ := List.forall_mem_cons.mp hvisible
    rw [hasBlockMark, Bool.or_eq_false_iff, Bool.or_eq_false_iff] at hmarks
    rw [List.cons_append, plainWord, ih c hvisible hmarks.2
      (fun h d hd => hflow h d (List.mem_cons_of_mem c hd)), if_neg]
    simp only [Bool.or_eq_true, Bool.and_eq_true, beq_iff_eq]
    rintro ((hends | ⟨rfl, hnext⟩) | ⟨hinside, hmark | rfl⟩)
    · rw [hc] at hends
      cases hends
    · cases word with
      | nil => exact absurd hmarks.1.1 (by decide)
      | cons d word =>
        rcases hnext with hnext | ⟨hinside, -⟩
        · rw [List.cons_append, List.headD_cons,
            hvisible d (List.mem_cons_of_mem _ List.mem_cons_self)] at hnext
          cases hnext
        · exact (hflow hinside ':' List.mem_cons_self).2.2 rfl
    · rw [(hflow hinside c List.mem_cons_self).1] at hmark
      cases hmark
    · exact (hflow hinside '?' List.mem_cons_self).2.1 rfl

theorem PlainWord.read (h : PlainWord flow word) {rest : List Char} (hrest : EndsPlainWord flow rest) :
    plainWord flow (word ++ rest) = word :=
  plainWord_append hrest ' '
    (fun c hc => endsWord_of_isSimple (h.visible c hc).1 (h.visible c hc).2.1 (h.visible c hc).2.2)
    h.marks h.flowMarks

theorem PlainWord.head_ne (h : PlainWord flow word) (rest : List Char) :
    ∀ c ∈ (word ++ rest).head?, c ≠ '#' := by
  obtain ⟨c, cs, rfl⟩ := List.exists_cons_of_ne_nil h.nonempty
  rintro d hd rfl
  obtain rfl := Option.mem_some_iff.mp hd
  exact absurd h.marks (by simp [hasBlockMark, endsWord])

theorem PlainTail.ends {text written after : List Char} (h : PlainTail flow text written)
    (hafter : StopsPlain flow after) : EndsPlainWord flow (written ++ after) := by
  cases h with
  | nil => exact fun c hc => .inr (hafter c hc)
  | blanks =>
    intro c hc
    obtain rfl := Option.mem_some_iff.mp hc
    exact .inl rfl
  | fold =>
    intro c hc
    obtain rfl := Option.mem_some_iff.mp hc
    exact .inl rfl

section Reading

variable {c : Cursor} {cs : List Char} {fuel : Nat}

theorem plainBreaks_blanks (indent : Nat) (hc : c.rest = List.replicate indent ' ' ++ cs)
    (hcs : Solid cs) (hfuel : indent < fuel) :
    ∃ c', c'.rest = cs ∧ plainBreaks fuel [] c = (some [], c') := by
  obtain ⟨fuel, rfl⟩ := Nat.exists_eq_succ_of_ne_zero (Nat.ne_of_gt (Nat.zero_lt_of_lt hfuel))
  induction indent generalizing c fuel with
  | zero =>
    rw [List.replicate_zero, List.nil_append] at hc
    rw [← hc] at hcs
    have hblank := peek_ne_blank hcs
    refine ⟨c, hc, ?_⟩
    rw [plainBreaks, if_neg (by simpa using hblank), if_neg (by simp [isBreak_peek hcs])]
  | succ n ih =>
    obtain ⟨fuel, rfl⟩ := Nat.exists_eq_succ_of_ne_zero
      (Nat.ne_of_gt (Nat.zero_lt_of_lt (Nat.lt_of_succ_lt_succ hfuel)))
    rw [List.replicate_succ, List.cons_append] at hc
    obtain ⟨c', hc', hread⟩ := ih (Cursor.next_rest_of_cons hc) fuel (Nat.lt_of_succ_lt_succ hfuel)
    refine ⟨c', hc', ?_⟩
    rw [plainBreaks, if_pos (beq_iff_eq.mpr (Cursor.peek_of_cons hc)), hread]

theorem StopsPlain.solid {after : List Char} (h : StopsPlain flow after) : Solid after := by
  intro ch hch
  obtain ⟨-, hmark⟩ := h ch hch
  rw [← Bool.not_eq_true]
  intro hends
  have hnone : ∀ d ∈ [' ', '\t', '\n', '\r', '\x85', '\u2028', '\u2029', '\x00'],
      ¬ isFlowMark d :=
    List.any_eq_false.mp (by decide)
  exact hnone ch (mem_of_endsWord hends) hmark

/-- Blanks in front of a word, or none in front of what a scalar stops at. -/
theorem plainSpace_blanks (n : Nat) (hc : c.rest = List.replicate n ' ' ++ cs) (hcs : Solid cs) :
    plainSpace c = (List.replicate n ' ', false, c.skip n) := by
  have hspan : c.span (· == ' ') = (List.replicate n ' ', c.skip n) := by
    rw [Cursor.span_append hc, List.length_replicate]
    · intro ch hch
      rw [List.eq_of_mem_replicate hch]
      rfl
    · intro ch hch
      have hends := hcs ch hch
      simp only [endsWord, Bool.or_eq_false_iff] at hends
      exact hends.1.1.1
  have hrest := Cursor.skip_rest_of_blanks hc
  rw [plainSpace, hspan]
  simp [isBreak_peek (hrest ▸ hcs)]

theorem plainSpace_fold (indent : Nat)
    (hc : c.rest = '\n' :: ' ' :: (List.replicate indent ' ' ++ cs)) (hcs : Solid cs) :
    ∃ c', c'.rest = cs ∧ plainSpace c = ([' '], true, c') := by
  have hspan : c.span (· == ' ') = ([], c) := Cursor.span_cons_of_neg hc rfl
  have hpeek := Cursor.peek_of_cons hc
  have hnext := Cursor.next_rest_of_cons hc
  have hfuel : indent + 1 < c.next.rest.length + 1 := by
    simp only [hnext, List.length_cons, List.length_append, List.length_replicate]
    omega
  obtain ⟨c', hc', hread⟩ := plainBreaks_blanks (indent + 1) hnext hcs hfuel
  refine ⟨c', hc', ?_⟩
  rw [plainSpace, hspan]
  simp only [hpeek, Cursor.lineBreak_of_newLine hc, hread,
    Cursor.atSeparator_of_cons hnext (by decide) (by decide)]
  rfl

/-- One word of a plain scalar, with the space behind it. -/
theorem plainWords_word (hword : PlainWord flow word) {rest : List Char}
    (hrest : EndsPlainWord flow rest) (hc : c.rest = word ++ rest) {indent : Int} {broken : Bool}
    {space done space' : List Char} {broken' : Bool} {c' : Cursor}
    (hspace : plainSpace (c.skip word.length) = (space', broken', c')) :
    plainWords flow indent (fuel + 1) broken space done c =
      if space'.isEmpty || c'.peek == '#' || (!flow && (c'.column : Int) < indent) then
        (done ++ space ++ word, broken', c')
      else plainWords flow indent fuel broken' space' (done ++ space ++ word) c' := by
  have hpeek : ¬ (c.peek == '#') = true := by
    rw [Cursor.peek, hc, beq_iff_eq]
    obtain ⟨d, ds, rfl⟩ := List.exists_cons_of_ne_nil hword.nonempty
    exact hword.head_ne rest d rfl
  have hnonempty : ¬ word.isEmpty = true := by simpa using hword.nonempty
  rw [plainWords]
  simp only [if_neg hpeek, hc, hword.read hrest, if_neg hnonempty, hspace]

/-- Behind space the reader goes on with the next word. -/
theorem plainWords_next {next rest rest' : List Char} {indent : Int} (hindent : flow ∨ indent ≤ 0)
    (hword : PlainWord flow word) (hrest : EndsPlainWord flow rest) (hc : c.rest = word ++ rest)
    {broken broken' : Bool} {space space' : List Char} (done : List Char) {c' : Cursor}
    (hspace : plainSpace (c.skip word.length) = (space', broken', c')) (hsome : space' ≠ [])
    (hnext : PlainWord flow next) (hc' : c'.rest = next ++ rest') :
    plainWords flow indent (fuel + 1) broken space done c =
      plainWords flow indent fuel broken' space' (done ++ space ++ word) c' := by
  obtain ⟨d, ds, rfl⟩ := List.exists_cons_of_ne_nil hnext.nonempty
  have hpeek : c'.peek ≠ '#' := by
    rw [Cursor.peek, hc']
    exact hnext.head_ne rest' d rfl
  have hcolumn : ¬ ((!flow) = true ∧ (c'.column : Int) < indent) := by
    rintro ⟨hblock, hlt⟩
    rcases hindent with hflow | hindent
    · rw [hflow] at hblock
      cases hblock
    · omega
  rw [plainWords_word hword hrest hc hspace, if_neg]
  simpa [hsome, hpeek] using hcolumn

end Reading

/-- The words of a plain scalar from any of them on. -/
theorem PlainTail.read {text written after : List Char} (h : PlainTail flow text written)
    (hafter : StopsPlain flow after) {indent : Int} (hindent : flow ∨ indent ≤ 0)
    (hword : PlainWord flow word) {fuel : Nat} (broken : Bool) (space done : List Char) {c : Cursor}
    (hc : c.rest = word ++ (written ++ after)) (hfuel : written.length < fuel) :
    ∃ broken' c', c'.rest = after ∧ plainWords flow indent fuel broken space done c =
      (done ++ space ++ (word ++ text), broken', c') := by
  obtain ⟨fuel, rfl⟩ := Nat.exists_eq_succ_of_ne_zero (Nat.ne_of_gt (Nat.zero_lt_of_lt hfuel))
  have hends := h.ends hafter
  have hrest := Cursor.skip_rest_of_append hc
  induction h generalizing word fuel broken space done c with
  | nil =>
    refine ⟨false, c.skip word.length, hrest, ?_⟩
    rw [plainWords_word hword hends hc (plainSpace_blanks 0 hrest hafter.solid), List.append_nil]
    exact if_pos rfl
  | @blanks next _ written n hnext htail ih =>
    simp only [List.append_assoc] at hrest
    have hspace := plainSpace_blanks (n + 1) hrest (hnext.solid_append (written ++ after))
    have hnextRest := Cursor.skip_rest_of_blanks hrest
    simp only [List.length_append, List.length_replicate] at hfuel
    obtain ⟨fuel, rfl⟩ := Nat.exists_eq_succ_of_ne_zero (show fuel ≠ 0 by omega)
    obtain ⟨broken', c', hc', hread⟩ := ih hnext false (List.replicate (n + 1) ' ')
      (done ++ space ++ word) hnextRest fuel (by omega) (htail.ends hafter)
      (Cursor.skip_rest_of_append hnextRest)
    refine ⟨broken', c', hc', ?_⟩
    rw [plainWords_next hindent hword hends hc done hspace (by simp) hnext hnextRest, hread]
    simp only [List.append_assoc]
  | @fold next _ written n hflow hnext htail ih =>
    simp only [List.cons_append, List.append_assoc] at hrest
    obtain ⟨c₁, hc₁, hspace⟩ := plainSpace_fold n hrest (hnext.solid_append (written ++ after))
    simp only [List.length_cons, List.length_append] at hfuel
    obtain ⟨fuel, rfl⟩ := Nat.exists_eq_succ_of_ne_zero (show fuel ≠ 0 by omega)
    obtain ⟨broken', c', hc', hread⟩ := ih hnext true [' ']
      (done ++ space ++ word) hc₁ fuel (by omega) (htail.ends hafter)
      (Cursor.skip_rest_of_append hc₁)
    refine ⟨broken', c', hc', ?_⟩
    rw [plainWords_next hindent hword hends hc done hspace (by simp) hnext hc₁, hread]
    simp only [List.append_assoc, List.singleton_append]

/-- **Every way to write a plain scalar is read as its text.** -/
theorem PlainWriting.read {text written after : List Char} (h : PlainWriting flow text written)
    (hafter : StopsPlain flow after) {indent : Int} (hindent : flow ∨ indent ≤ 0) {c : Cursor}
    (hc : c.rest = written ++ after) :
    ∃ broken c', c'.rest = after ∧ plainScalar flow indent c = (text, broken, c') := by
  cases h with
  | words hword htail =>
    rw [List.append_assoc] at hc
    exact htail.read hafter hindent hword false [] [] hc
      (by rw [hc]; simp only [List.length_append]; omega)

/-! ## Writing -/

/-- What is still to be written of a plain scalar behind a character. -/
structure PlainRest (flow : Bool) (before : Char) (cs : List Char) : Prop where
  simple : ∀ c ∈ cs, isSimple [c] ∧ c ≠ '\n'
  last : cs.getLast? ≠ some ' '
  marks : hasBlockMark before cs = false
  flowMarks : flow → ∀ c ∈ cs, isFlowMark c = false ∧ c ≠ '?' ∧ c ≠ ':'

theorem hasBlockMark_append {before : Char} {xs ys : List Char}
    (h : hasBlockMark before (xs ++ ys) = false) :
    hasBlockMark (xs.getLastD before) ys = false := by
  induction xs generalizing before with
  | nil => exact h
  | cons x xs ih =>
    rw [List.cons_append, hasBlockMark, Bool.or_eq_false_iff] at h
    rw [List.getLastD_cons]
    exact ih h.2

/-- The marks of a word in front of a blank, or at the end. -/
theorem hasBlockMark_word {before : Char} {xs ys : List Char}
    (h : hasBlockMark before (xs ++ ys) = false) (hys : ∀ c ∈ ys.head?, c = ' ') :
    hasBlockMark before xs = false := by
  induction xs generalizing before with
  | nil => rfl
  | cons x xs ih =>
    rw [List.cons_append, hasBlockMark, Bool.or_eq_false_iff, Bool.or_eq_false_iff] at h
    rw [hasBlockMark, ih h.2, h.1.2, Bool.or_false, Bool.or_false]
    cases xs with
    | cons d xs => exact h.1.1
    | nil =>
      cases ys with
      | nil => exact h.1.1
      | cons y ys =>
        obtain rfl := hys y rfl
        exact h.1.1

theorem PlainRest.of_append {before : Char} {xs ys : List Char} (h : PlainRest flow before (xs ++ ys)) :
    PlainRest flow (xs.getLastD before) ys where
  simple := fun c hc => h.simple c (List.mem_append_right xs hc)
  last := by
    intro hlast
    apply h.last
    rw [List.getLast?_append, hlast]
    rfl
  marks := hasBlockMark_append h.marks
  flowMarks := fun hflow c hc => h.flowMarks hflow c (List.mem_append_right xs hc)

section Writing

variable {split : Bool} {column : Nat}

/-- Wherever the page stands, what is written of the characters is one of the `ways` to write them;
without folding, it is the characters as they stand. -/
def WritesPlain (ways : (text written : List Char) → Prop) (split : Bool) (indent : Nat)
    (cs : List Char) : Prop :=
  ∀ p : Page, ∃ written, ways cs written ∧ (split = false → written = cs) ∧
    (plainRuns split (indent + 1) p (runs cs)).text = written.reverse ++ p.text

section Runs

variable {indent : Nat} {rest : List Char}

theorem writesPlain_blanks (hwidth : indent + 1 ≤ lineWidth) (hsplit : split → flow) {n : Nat}
    (hruns : runs (List.replicate (n + 1) ' ' ++ rest) = List.replicate (n + 1) ' ' :: runs rest)
    (h : WritesPlain (PlainWriting flow) split indent rest) :
    WritesPlain (PlainTail flow) split indent (List.replicate (n + 1) ' ' ++ rest) := by
  intro p
  rw [hruns, plainRuns]
  split
  · next hfold =>
    simp only [Bool.and_eq_true, beq_iff_eq, decide_eq_true_eq] at hfold
    obtain ⟨⟨hone, hlong⟩, hfolds⟩ := hfold
    obtain ⟨written, hwritten, -, htext⟩ := h (p.fold (indent + 1))
    rw [hone]
    refine ⟨_, hwritten.fold (hsplit hfolds) indent, fun hno => ?_, ?_⟩
    · rw [hno] at hfolds
      cases hfolds
    · rw [htext, fold_of_lt (Nat.succ_pos indent) (Nat.lt_of_le_of_lt hwidth hlong),
        atColumn_succ_text]
      simp
  · obtain ⟨written, hwritten, hsame, htext⟩ := h (p.put (List.replicate (n + 1) ' '))
    refine ⟨_, hwritten.blanks n, fun hno => by rw [hsame hno], ?_⟩
    rw [htext, put_text, List.reverse_append, List.append_assoc]

theorem writesPlain_word (hword : PlainWord flow word) (hruns : runs (word ++ rest) = word :: runs rest)
    (h : WritesPlain (PlainTail flow) split indent rest) :
    WritesPlain (PlainWriting flow) split indent (word ++ rest) := by
  intro p
  have hput : plainRuns split (indent + 1) p (runs (word ++ rest)) =
      plainRuns split (indent + 1) (p.put word) (runs rest) := by
    obtain ⟨c, cs, rfl⟩ := List.exists_cons_of_ne_nil hword.nonempty
    rw [hruns, plainRuns, if_neg]
    simp [(hword.visible c List.mem_cons_self).2.1]
  obtain ⟨written, hwritten, hsame, htext⟩ := h (p.put word)
  refine ⟨_, .words hword hwritten, fun hno => by rw [hsame hno], ?_⟩
  rw [hput, htext, put_text, List.reverse_append, List.append_assoc]

end Runs

/-- The runs of a plain scalar are written in one of the ways to write it: from a blank on as a tail,
from a word on as words. -/
theorem plainRuns_writes {indent : Nat} (hwidth : indent + 1 ≤ lineWidth) (hsplit : split → flow)
    (cs : List Char) :
    (∀ before, PlainRest flow before cs → (∀ c ∈ cs.head?, c = ' ') →
        WritesPlain (PlainTail flow) split indent cs) ∧
      (PlainRest flow ' ' cs → (∃ c ∈ cs.head?, c ≠ ' ') →
        WritesPlain (PlainWriting flow) split indent cs) := by
  induction cs using runs_induction with
  | nil =>
    refine ⟨fun _ _ _ _ => ⟨[], .nil, fun _ => rfl, rfl⟩, ?_⟩
    rintro - ⟨c, hc, -⟩
    cases hc
  | blanks n rest hrest hruns ih =>
    refine ⟨fun before h _ => writesPlain_blanks hwidth hsplit hruns ?_, ?_⟩
    · have hafter : PlainRest flow ' ' rest := by
        have happend := h.of_append
        rwa [List.replicate_succ', List.getLastD_concat] at happend
      refine ih.2 hafter ?_
      cases rest with
      | nil => exact absurd (by simp [List.replicate_succ']) h.last
      | cons c rest => exact ⟨c, rfl, hrest c rfl⟩
    · rintro - ⟨c, hc, hblank⟩
      exact absurd (Option.mem_some_iff.mp hc).symm hblank
  | lines n rest _ _ _ =>
    have hnone : ∀ before, ¬ PlainRest flow before (List.replicate (n + 1) '\n' ++ rest) :=
      fun before h => (h.simple '\n' (by simp)).2 rfl
    exact ⟨fun before h => absurd h (hnone before), fun h => absurd h (hnone ' ')⟩
  | word c cs rest hword hrest hruns ih =>
    refine ⟨fun before h hblank => absurd (hblank c rfl) (hword c List.mem_cons_self).1,
      fun h _ => ?_⟩
    have hblank : ∀ d ∈ rest.head?, d = ' ' := by
      intro d hd
      refine (hrest d hd).resolve_right (h.simple d ?_).2
      exact List.mem_append_right _ (List.mem_of_mem_head? hd)
    have hfirst : PlainWord flow (c :: cs) := {
      nonempty := List.cons_ne_nil c cs
      visible := fun d hd => ⟨(h.simple d (List.mem_append_left rest hd)).1, hword d hd⟩
      marks := hasBlockMark_word h.marks hblank
      flowMarks := fun hflow d hd => h.flowMarks hflow d (List.mem_append_left rest hd) }
    exact writesPlain_word hfirst hruns (ih.1 _ h.of_append hblank)

/-- A text that may be written plain, with the marks that it does not have. -/
structure Plain (flow : Bool) (cs : List Char) : Prop where
  nonempty : cs ≠ []
  simple : ∀ c ∈ cs, isSimple [c] ∧ c ≠ '\n'
  first : cs.head? ≠ some ' '
  last : cs.getLast? ≠ some ' '
  marks : marksBlock cs = false
  flowMarks : flow → ∀ c ∈ cs, isFlowMark c = false ∧ c ≠ '?' ∧ c ≠ ':'

theorem Plain.rest {cs : List Char} (h : Plain flow cs) : PlainRest flow ' ' cs where
  simple := h.simple
  last := h.last
  marks := by
    obtain ⟨c, rest, rfl⟩ := List.exists_cons_of_ne_nil h.nonempty
    have hmarks := h.marks
    simp only [marksBlock, Bool.or_eq_false_iff, Bool.and_eq_false_iff] at hmarks
    obtain ⟨⟨⟨-, hopening⟩, hlone⟩, hrest⟩ := hmarks
    have hcomment : c ≠ '#' := by
      rintro rfl
      cases hopening
    simp only [hasBlockMark, hrest, Bool.or_false, Bool.or_eq_false_iff, Bool.and_eq_false_iff]
    refine ⟨hlone.imp_left fun h => h.1.2, .inl (beq_eq_false_iff_ne.mpr hcomment)⟩
  flowMarks := h.flowMarks

/-- **A plain scalar** is written in one of the ways to write it. -/
theorem Plain.writes {cs : List Char} (h : Plain flow cs) (split : Bool) (hcolumn : 0 < column)
    (hwidth : column ≤ lineWidth) (hsplit : split → flow) (p : Page) : ∃ written,
      PlainWriting flow cs written ∧ (split = false → written = cs) ∧
        (p.plain split column cs).text = written.reverse ++ p.opened := by
  have hfirst : ∃ c ∈ cs.head?, c ≠ ' ' := by
    obtain ⟨c, cs, rfl⟩ := List.exists_cons_of_ne_nil h.nonempty
    exact ⟨c, rfl, by simpa using h.first⟩
  have hopened : (if p.spaced then p else p.put [' ']).text = p.opened := by
    unfold opened
    split <;> rfl
  obtain ⟨indent, rfl⟩ := Nat.exists_eq_succ_of_ne_zero (Nat.ne_of_gt hcolumn)
  obtain ⟨written, hwritten, hsame, htext⟩ := (plainRuns_writes hwidth hsplit cs).2 h.rest hfirst
    { (if p.spaced then p else p.put [' ']) with spaced := false, margin := false }
  refine ⟨written, hwritten, hsame, ?_⟩
  rw [plain, if_neg (by simpa using h.nonempty)]
  exact htext.trans (congrArg (written.reverse ++ ·) hopened)

/-- A plain scalar on one line is one of the ways to write it. -/
theorem Plain.itself {cs : List Char} (h : Plain flow cs) : PlainWriting flow cs cs := by
  obtain ⟨written, hwritten, hsame, -⟩ := h.writes false Nat.one_pos
    (by decide) (by simp) {}
  rwa [hsame rfl] at hwritten

end Writing

theorem PlainTail.permitted {text written : List Char} (h : PlainTail flow text written) :
    ∀ c ∈ written, isPermitted c := by
  induction h with
  | nil => simp
  | blanks n hword _ ih =>
    exact List.forall_mem_append.mpr ⟨isPermitted_blanks _, List.forall_mem_append.mpr
      ⟨fun c hc => isPermitted_of_isSimple (hword.visible c hc).1, ih⟩⟩
  | fold indent _ hword _ ih =>
    exact List.forall_mem_cons.mpr ⟨rfl, List.forall_mem_cons.mpr ⟨rfl, List.forall_mem_append.mpr
      ⟨isPermitted_blanks indent, List.forall_mem_append.mpr
        ⟨fun c hc => isPermitted_of_isSimple (hword.visible c hc).1, ih⟩⟩⟩⟩

theorem PlainWriting.permitted {text written : List Char} (h : PlainWriting flow text written) :
    ∀ c ∈ written, isPermitted c := by
  cases h with
  | words hword htail =>
    exact List.forall_mem_append.mpr
      ⟨fun c hc => isPermitted_of_isSimple (hword.visible c hc).1, htail.permitted⟩

/-! ## What a plain scalar begins with -/

/-- What stands at the cursor can be nothing else than the beginning of a plain scalar. -/
structure PlainStart (flow : Bool) (c : Char) (rest : List Char) : Prop where
  visible : endsWord c = false
  opening : isOpeningMark c = false
  lone : c = '-' ∨ c = '?' ∨ c = ':' → endsWord (rest.headD '\x00') = false
  flowMarks : flow → c ≠ '?' ∧ c ≠ ':'
  separator : ∀ m, m = '-' ∨ m = '.' → (c :: rest).take 3 ≠ [m, m, m]

theorem PlainStart.ne_mark {c : Char} {rest : List Char} (h : PlainStart flow c rest) (m : Char)
    (hm : isOpeningMark m) : c ≠ m := by
  rintro rfl
  rw [h.opening] at hm
  cases hm

theorem PlainWriting.start {text written after : List Char} (h : PlainWriting flow text written)
    (hafter : StopsPlain flow after) (hplain : Plain flow text) :
    ∃ c rest, written ++ after = c :: rest ∧ PlainStart flow c rest := by
  have hmarks := hplain.marks
  cases h with
  | @words word text written hword htail =>
    have hends := htail.ends hafter
    obtain ⟨c, word, rfl⟩ := List.exists_cons_of_ne_nil hword.nonempty
    have hvisible : ∀ d ∈ c :: word, endsWord d = false := fun d hd =>
      endsWord_of_isSimple (hword.visible d hd).1 (hword.visible d hd).2.1 (hword.visible d hd).2.2
    simp only [List.cons_append, marksBlock, Bool.or_eq_false_iff, beq_eq_false_iff_ne] at hmarks
    obtain ⟨⟨⟨⟨hline, hpoint⟩, hopening⟩, hlone⟩, -⟩ := hmarks
    refine ⟨c, word ++ (written ++ after), by simp, hvisible c List.mem_cons_self, hopening,
      fun hc => ?_, fun hflow => (hword.flowMarks hflow c List.mem_cons_self).2, fun m hm => ?_⟩
    · cases word with
      | cons d word => exact hvisible d (by simp)
      | nil =>
        have hc : (c == '?' || c == ':' || c == '-') = true := by
          rcases hc with rfl | rfl | rfl <;> rfl
        rw [hc, Bool.true_and] at hlone
        cases htail <;> cases hlone
    · have hother : ∀ rest, written ++ after ≠ m :: rest := by
        intro rest hrest
        rcases hends m (by rw [hrest]; rfl) with h | ⟨-, h⟩ <;>
          rcases hm with rfl | rfl <;> exact absurd h (by decide)
      intro htake
      rcases word with - | ⟨d, - | ⟨e, word⟩⟩
      · cases hrest : written ++ after with
        | nil => simp [hrest] at htake
        | cons x rest =>
          simp only [List.nil_append, hrest, List.take_succ_cons, List.cons.injEq] at htake
          exact hother rest (htake.2.1 ▸ hrest)
      · cases hrest : written ++ after with
        | nil => simp [hrest] at htake
        | cons x rest =>
          simp only [List.singleton_append, hrest, List.take_succ_cons, List.cons.injEq] at htake
          exact hother rest (htake.2.2.1 ▸ hrest)
      · simp only [List.cons_append, List.take_succ_cons, List.take_zero] at htake hline hpoint
        rcases hm with rfl | rfl
        · exact hline htake
        · exact hpoint htake

end FolderTalk.Yaml
