import FolderTalk.Proofs.Command.Operand

/-!
# Reading a command word by word

The search goes over a text of single words as the pattern's author has in mind.

* `advance_keyword`, `advance_optionalWord`, `advance_firstOf` : a word of the pattern takes the
  word of the text, a word that may be left out takes it exactly if it stands there;
* `advance_operand_last`, `advance_operand_between` : a name in optional quotes takes exactly the
  operand, at the end of a command and before a separating word.
-/

namespace FolderTalk.Command

open Text Pattern

/-- The word, if it is given. -/
def given (b : Bool) (s : String) : List (List Char) := if b then [s.toList] else []

/-- Structure words before words. -/
theorem worded_append {us vs : List (List Char)} (hus : us ⊆ structureWords) (hvs : Worded vs) :
    Worded (us ++ vs) := by
  have hstructure : ∀ w ∈ structureWords, w ≠ [] ∧ Solid w := by decide
  exact List.forall_mem_append.mpr ⟨fun w hw => hstructure w (hus hw), hvs⟩

theorem prefix_of_blank_after {l w rest : List Char} (hl : Solid l) (h : l <+: w ++ ' ' :: rest) :
    l <+: w := by
  rcases List.prefix_or_prefix_of_prefix h (List.prefix_append _ _) with hin | ⟨x, rfl⟩
  · exact hin
  · obtain ⟨later, hx⟩ := h
    rw [List.append_assoc] at hx
    cases x with
    | nil => exact (List.append_nil w).symm ▸ List.prefix_refl w
    | cons c x =>
      obtain ⟨rfl, _⟩ := List.cons.inj (List.append_cancel_left hx)
      exact absurd (hl ' ' (by simp)) (by decide)

/-! ## Words of the pattern -/

@[simp] theorem advance_andThen {α : Type} (p q : Pattern) (k : Cursor → Option α) :
    (andThen p q).advance k = p.advance (q.advance k) := rfl

section Words
variable {α : Type} {k : Cursor → Option α} {g : List (List Char)} {r : α}
  {ws : List (List Char)}

theorem advance_blanks (hws : Worded ws) (h : k ⟨spaced ws, g⟩ = some r) :
    Rule.blanks.advance k ⟨' ' :: spaced ws, g⟩ = some r := by
  refine advance_run (List.cons_ne_nil ' ' []) (List.forall_mem_singleton.mpr (by decide)) h ?_
  intro v s hv hblank hsplit
  obtain ⟨c, v, rfl⟩ := List.exists_cons_of_ne_nil hv
  have hc := head_spaced hws c (by rw [hsplit]; rfl)
  have hblank : isBlank c = true := hblank c (by simp)
  rw [hc] at hblank
  cases hblank

/-- The opening word of a command, or one that cannot be left out. -/
theorem advance_keyword (s : String) (hne : ws ≠ []) (hws : Worded ws)
    (h : k ⟨spaced ws, g⟩ = some r) :
    (word s).advance (Rule.blanks.advance k) ⟨spaced (s.toList :: ws), g⟩ = some r := by
  rw [spaced_cons _ hne, word, advance_literal]
  exact advance_blanks hws h

theorem reads_blanks {t : List Char} (h : Rule.blanks.Reads t) : ∃ b bs, isBlank b ∧ t = b :: bs := by
  obtain ⟨hne, hblank⟩ := h
  obtain ⟨b, bs, rfl⟩ := List.exists_cons_of_ne_nil hne
  exact ⟨b, bs, hblank b (by simp), rfl⟩

/-- What a word of the pattern with the blanks after it is found in begins with the word. -/
theorem head_eq_of_reads (hws : Worded ws) {w t later : List Char} (hw : Solid w)
    (ht : spaced ws = t ++ later) (h : (inOrder [literal w, Rule.blanks]).Reads t) :
    ws.head? = some w := by
  obtain ⟨_, bs, rfl, rfl, hbs⟩ := h
  obtain ⟨b, bs, hb, rfl⟩ := reads_blanks hbs
  rw [List.append_assoc, List.cons_append] at ht
  exact head_eq_of_blank_after hws.solid hw hb ht

theorem advance_optionalWord (b : Bool) {s : String} (hs : Solid s.toList) (hne : ws ≠ [])
    (hws : Worded ws) (hother : ws.head? ≠ some s.toList) (h : k ⟨spaced ws, g⟩ = some r) :
    (Rule.optionalWord s).advance k ⟨spaced (given b s ++ ws), g⟩ = some r := by
  cases b with
  | true => exact advance_optional_present (advance_keyword s hne hws h)
  | false =>
    refine (advance_optional_absent ?_).trans h
    intro t later ht hreads
    exact hother (head_eq_of_reads hws hs ht hreads)

/-- One of several words, when no word of the pattern begins a later one. -/
theorem advance_firstOf {ls : List (List Char)} {w rest : List Char} (hw : w ∈ ls)
    (hls : ∀ l ∈ ls, Solid l) (hapart : ls.Pairwise fun a b => ¬ a <+: b)
    (h : k ⟨' ' :: rest, g⟩ = some r) :
    (firstOf (ls.map literal)).advance k ⟨w ++ ' ' :: rest, g⟩ = some r := by
  induction ls with
  | nil => cases hw
  | cons l ls ih =>
    obtain ⟨hl, hls⟩ := List.forall_mem_cons.mp hls
    obtain ⟨hfirst, hapart⟩ := List.pairwise_cons.mp hapart
    have hhere : (literal w).advance k ⟨w ++ ' ' :: rest, g⟩ = some r := by
      rw [advance_literal, h]
    cases ls with
    | nil => rw [List.mem_singleton.mp hw] at hhere ⊢; exact hhere
    | cons l' ls =>
      show (either (literal l) (firstOf ((l' :: ls).map literal))).advance k _ = some r
      rcases List.mem_cons.mp hw with rfl | hlater
      · exact advance_either_left hhere
      · refine (advance_either_right ?_).trans (ih hlater hls hapart)
        intro t later ht hreads
        rw [show t = l from hreads] at ht
        exact hfirst w hlater (prefix_of_blank_after hl ⟨later, ht.symm⟩)

theorem reads_firstOf {ls : List (List Char)} {t : List Char} (hne : ls ≠ [])
    (h : (firstOf (ls.map literal)).Reads t) : t ∈ ls := by
  induction ls with
  | nil => exact absurd rfl hne
  | cons l ls ih =>
    cases ls with
    | nil => exact List.mem_singleton.mpr h
    | cons l' ls =>
      rcases h with h | h
      · exact List.mem_cons.mpr (.inl h)
      · exact List.mem_cons_of_mem _ (ih (by simp) h)

/-- One of several words with blanks around it. -/
def separator (seps : List (List Char)) : Pattern :=
  inOrder [Rule.blanks, firstOf (seps.map literal), Rule.blanks]

/-- Where a separating word is read, a word of the text other than the first is one. -/
theorem mem_tail_of_separator {seps : List (List Char)} (hne : seps ≠ [])
    (hsolid : ∀ l ∈ seps, Solid l) (hws : Worded ws) {before t later : List Char}
    (hsplit : spaced ws = before ++ t ++ later) (h : (separator seps).Reads t) :
    ∃ l ∈ seps, l ∈ ws.tail := by
  obtain ⟨bs, _, rfl, hbs, l, cs, rfl, hl, hcs⟩ := h
  have hmem := reads_firstOf hne hl
  obtain ⟨b, bs, rfl⟩ : ∃ b front, bs = front ++ [b] :=
    ⟨bs.getLast hbs.1, bs.dropLast, (List.dropLast_append_getLast hbs.1).symm⟩
  obtain ⟨c, cs, hc, rfl⟩ := reads_blanks hcs
  have hb : isBlank b = true := hbs.2 b (by simp)
  have hbetween : spaced ws = (before ++ bs) ++ b :: (l ++ c :: (cs ++ later)) := by
    rw [hsplit]
    simp
  exact ⟨l, hmem, mem_of_between hws.solid (hsolid l hmem) hb hc hbetween⟩

end Words

/-! ## Operands of the pattern -/

/-- A run in optional quotes, kept as a group. -/
def quotedRun (cls : CharClass) : Pattern :=
  inOrder [Rule.quoteMark, group (run cls), Rule.quoteMark]

/-- Classes for words of operands: blanks are in the class and quotes are not. -/
structure ForOperands (cls : CharClass) : Prop where
  blank : cls.contains ' '
  quote : ∀ c, CharClass.quote.contains c → cls.contains c = false

theorem forOperands_name : ForOperands .name where
  blank := by decide
  quote := by
    intro c hc
    simp only [CharClass.contains, Bool.or_eq_true, beq_iff_eq] at hc
    rcases hc with rfl | rfl <;> decide +kernel

theorem forOperands_fileName : ForOperands .fileName where
  blank := by decide
  quote := by
    intro c hc
    simp only [CharClass.contains, Bool.or_eq_true, beq_iff_eq] at hc
    rcases hc with rfl | rfl <;> decide +kernel

section Operands
variable {α : Type} {k : Cursor → Option α} {g : List (List Char)} {r : α} {cls : CharClass}
  {o : Operand}

theorem Operand.Plain.phrase_within (hcls : ForOperands cls) (ho : o.Plain cls) :
    ∀ c ∈ o.phrase, cls.contains c := by
  have hspaced : ∀ ws : List (List Char), (∀ w ∈ ws, PlainWord cls w) →
      ∀ c ∈ spaced ws, cls.contains c := by
    intro ws
    induction ws with
    | nil => intro _; exact List.forall_mem_nil _
    | cons w ws ih =>
      intro hws
      obtain ⟨hw, hws⟩ := List.forall_mem_cons.mp hws
      have hword : ∀ c ∈ w, cls.contains c := fun c hc => (hw.within c hc).1
      cases ws with
      | nil => exact hword
      | cons v ws =>
        rw [spaced]
        exact List.forall_mem_append.mpr
          ⟨hword, List.forall_mem_cons.mpr ⟨hcls.blank, ih hws⟩⟩
  exact hspaced o.words ho.plain

theorem Operand.Plain.phrase_ne_nil (ho : o.Plain cls) : o.phrase ≠ [] := by
  obtain ⟨w, ws, hws⟩ := List.exists_cons_of_ne_nil ho.nonempty
  have hw := (ho.plain w (by rw [hws]; simp)).nonempty
  rw [phrase, hws]
  cases ws with
  | nil => exact hw
  | cons v ws => simp [spaced]

theorem quoteMark_absent {text : List Char} (h : ∀ c ∈ text.head?, CharClass.quote.contains c = false) :
    Rule.quoteMark.advance k ⟨text, g⟩ = k ⟨text, g⟩ := by
  refine advance_optional_absent ?_
  rintro t later ht ⟨c, hc, rfl⟩
  rw [h c (by rw [show text = [c] ++ later from ht]; rfl)] at hc
  cases hc

theorem quoteMark_present {c : Char} {text : List Char} (hc : CharClass.quote.contains c)
    (h : k ⟨text, g⟩ = some r) : Rule.quoteMark.advance k ⟨c :: text, g⟩ = some r := by
  refine advance_optional_present ?_
  rw [advance]
  exact (if_pos hc).trans h

/-- The group takes the phrase and stops where the class does or where the rest of the work fails
wherever else the run could go on to. -/
theorem advance_group {u t : List Char} (hne : u ≠ []) (hu : ∀ c ∈ u, cls.contains c)
    (ht : k ⟨t, u :: g⟩ = some r)
    (hon : ∀ v s, v ≠ [] → (∀ c ∈ v, cls.contains c) → t = v ++ s → ∀ g', k ⟨s, g'⟩ = none) :
    (group (run cls)).advance k ⟨u ++ t, g⟩ = some r := by
  rw [advance]
  refine advance_run hne hu ?_ fun v s hv hin hsplit => hon v s hv hin hsplit _
  rw [textUntil_append]
  exact ht

/-- **A name in optional quotes takes exactly the operand**, if the rest of the work succeeds behind
it and nowhere further on. -/
theorem advance_quotedRun (hcls : ForOperands cls) (ho : o.Plain cls) {t : List Char}
    (hquote : ∀ c ∈ t.head?, CharClass.quote.contains c = false)
    (ht : k ⟨t, o.phrase :: g⟩ = some r)
    (hon : ∀ v s, v ≠ [] → t = v ++ s → ∀ g', k ⟨s, g'⟩ = none) :
    (quotedRun cls).advance k ⟨o.text ++ t, g⟩ = some r := by
  have hphrase := ho.phrase_within hcls
  have hne := ho.phrase_ne_nil
  have hquoted : ∀ q : Char, CharClass.quote.contains q →
      (quotedRun cls).advance k ⟨[q] ++ o.phrase ++ [q] ++ t, g⟩ = some r := by
    intro q hq
    rw [List.append_assoc, List.append_assoc, List.singleton_append]
    refine quoteMark_present hq (advance_group hne hphrase (quoteMark_present hq ht) ?_)
    intro v s hv hin hsplit
    obtain ⟨c, v, rfl⟩ := List.exists_cons_of_ne_nil hv
    obtain ⟨rfl, _⟩ := List.cons.inj hsplit
    have hnot := hin q (by simp)
    rw [hcls.quote q hq] at hnot
    cases hnot
  cases hmark : o.quotes with
  | single => rw [Operand.text, hmark]; exact hquoted '\'' (by decide)
  | double => rw [Operand.text, hmark]; exact hquoted '"' (by decide)
  | absent =>
    rw [Operand.text, hmark]
    show Rule.quoteMark.advance _ ⟨[] ++ o.phrase ++ [] ++ t, g⟩ = some r
    rw [List.nil_append, List.append_nil, quoteMark_absent]
    · refine advance_group hne hphrase ((quoteMark_absent hquote).trans ht) ?_
      intro v s hv _ hsplit g'
      rw [Option.eq_none_iff_forall_ne_some]
      intro r' hr'
      rcases orElse_eq_some.mp hr' with h | ⟨_, h⟩
      · obtain ⟨q, later, hs, _, h⟩ := advance_reads _ h
        rw [show s = q ++ later.rest from hs, ← List.append_assoc] at hsplit
        rw [hon (v ++ q) later.rest (by simp [hv]) hsplit later.groups] at h
        cases h
      · rw [hon v s hv hsplit g'] at h
        cases h
    · intro c hc
      rw [Bool.eq_false_iff]
      intro hq
      have hin := hphrase c (List.mem_of_head? (by rwa [List.head?_append_of_ne_nil _ hne] at hc))
      rw [hcls.quote c hq] at hin
      cases hin

theorem Operand.Plain.worded (ho : o.Plain cls) : Worded o.chunks := fun _ hw =>
  ⟨(ho.chunk_quiet hw).nonempty, (ho.chunk_quiet hw).solid⟩

/-- A name at the end of a command. -/
theorem advance_operand_last (hcls : ForOperands cls) (ho : o.Plain cls)
    (h : k ⟨[], o.phrase :: g⟩ = some r) :
    (quotedRun cls).advance k ⟨spaced o.chunks, g⟩ = some r := by
  rw [Operand.spaced_chunks ho.nonempty, ← List.append_nil o.text]
  refine advance_quotedRun hcls ho (by simp) h ?_
  intro v s hv hsplit
  exact absurd (List.append_eq_nil_iff.mp hsplit.symm).1 hv

/-- A separating word with blanks around it stands nowhere inside the text after it. -/
theorem separator_reads_nowhere {seps : List (List Char)} (hne : seps ≠ [])
    (hsolid : ∀ l ∈ seps, Solid l) {w : List Char} {ws : List (List Char)} (hws : Worded (w :: ws))
    (hfree : ∀ l ∈ seps, l ∉ ws) {v s : List Char} (hv : v ≠ [])
    (hsplit : ' ' :: spaced (w :: ws) = v ++ s) (g : List (List Char)) :
    (separator seps).advance k ⟨s, g⟩ = none := by
  refine advance_eq_none ?_
  intro t later hs hreads
  obtain ⟨_, v, rfl⟩ := List.exists_cons_of_ne_nil hv
  obtain ⟨_, hrest⟩ := List.cons.inj hsplit
  have hwhole : spaced (w :: ws) = v ++ t ++ later := by
    rw [hrest, List.append_eq, show s = _ from hs, List.append_assoc]
  obtain ⟨l, hl, hmem⟩ := mem_tail_of_separator hne hsolid hws hwhole hreads
  exact hfree l hl hmem

/-- A name before a separating word. -/
theorem advance_operand_between (hcls : ForOperands cls) (ho : o.Plain cls)
    {seps : List (List Char)} (hne : seps ≠ []) (hsolid : ∀ l ∈ seps, Solid l)
    {w : List Char} {ws : List (List Char)} (hws : Worded (w :: ws)) (hfree : ∀ l ∈ seps, l ∉ ws)
    (h : (firstOf (seps.map literal)).advance (Rule.blanks.advance k)
      ⟨spaced (w :: ws), o.phrase :: g⟩ = some r) :
    (quotedRun cls).advance
      (Rule.blanks.advance ((firstOf (seps.map literal)).advance (Rule.blanks.advance k)))
      ⟨spaced (o.chunks ++ w :: ws), g⟩ = some r := by
  rw [spaced_append (Operand.chunks_ne_nil ho.nonempty) (by simp), Operand.spaced_chunks ho.nonempty]
  refine advance_quotedRun hcls ho ?_ (advance_blanks hws h) ?_
  · intro c hc
    rw [List.head?_cons, Option.mem_some_iff] at hc
    rw [← hc]
    decide
  · intro v s hv hsplit g'
    exact separator_reads_nowhere hne hsolid hws hfree hv hsplit g'

theorem Operand.Plain.head_free (ho : o.Plain cls) {w : List Char} (hw : w ∈ structureWords)
    (ws : List (List Char)) : (o.chunks ++ ws).head? ≠ some w := by
  intro h
  rw [List.head?_append_of_ne_nil _ (Operand.chunks_ne_nil ho.nonempty)] at h
  exact (ho.chunk_quiet (List.mem_of_head? h)).free hw

/-- The words that separate operands: structure words, none of which begins a later one. -/
structure Separators (seps : List (List Char)) : Prop where
  structural : ∀ l ∈ seps, l ∈ structureWords ∧ Solid l
  apart : seps.Pairwise fun a b => ¬ a <+: b

variable {seps : List (List Char)} {w : List Char} {o' : Operand}

theorem Separators.worded (hseps : Separators seps) (hw : w ∈ seps) {ws : List (List Char)}
    (hws : Worded ws) : Worded (w :: ws) := by
  have hstructure : ∀ l ∈ structureWords, l ≠ [] := by decide
  obtain ⟨hmem, hsolid⟩ := hseps.structural w hw
  exact List.forall_mem_cons.mpr ⟨⟨hstructure w hmem, hsolid⟩, hws⟩

/-- A separating word and the name at the end of the command. -/
theorem advance_separator_operand (hseps : Separators seps) (hw : w ∈ seps) (ho : o.Plain .name)
    (h : k ⟨[], o.phrase :: g⟩ = some r) :
    (firstOf (seps.map literal)).advance (Rule.blanks.advance (Rule.folderName.advance k))
      ⟨spaced (w :: o.chunks), g⟩ = some r := by
  rw [spaced_cons _ (Operand.chunks_ne_nil ho.nonempty)]
  refine advance_firstOf hw (fun l hl => (hseps.structural l hl).2) hseps.apart ?_
  exact advance_blanks ho.worded (advance_operand_last forOperands_name ho h)

/-- A name, a separating word and the name at the end of the command. -/
theorem advance_operands (hcls : ForOperands cls) (hseps : Separators seps) (hw : w ∈ seps)
    (ho : o.Plain cls) (ho' : o'.Plain .name) (h : k ⟨[], o'.phrase :: o.phrase :: g⟩ = some r) :
    (quotedRun cls).advance (Rule.blanks.advance ((firstOf (seps.map literal)).advance
      (Rule.blanks.advance (Rule.folderName.advance k))))
      ⟨spaced (o.chunks ++ w :: o'.chunks), g⟩ = some r := by
  have hsolid := fun l hl => (hseps.structural l hl).2
  refine advance_operand_between hcls ho (List.ne_nil_of_mem hw) hsolid
    (hseps.worded hw ho'.worded) ?_ ?_
  · intro l hl hin
    exact (ho'.chunk_quiet hin).free (hseps.structural l hl).1
  · exact advance_separator_operand hseps hw ho' h

end Operands

end FolderTalk.Command
