import FolderTalk.Command.Rule

/-!
# What a pattern reads

* `Pattern.Reads` : the stretches of text that a pattern describes, without regard to the order in
  which the search tries them; `Pattern.Captures` : such a stretch with the texts of its groups;
* `advance_captures`, `search_captures` : whatever the search finds is such a stretch, and the rest of
  the work succeeded behind it. So a text without such a stretch is not matched (`search_eq_none`);
* `search_isSome_iff` : a pattern that does not ask for the end of the text is found exactly where such
  a stretch stands somewhere in the text;
* `longestFirst_eq` : a run settles on the longest stretch behind which the rest of the work
  succeeds.
-/

namespace FolderTalk.Command

/-! ## One way or else another -/

theorem some_orElse {α : Type} (a : α) (y : Option α) : (some a <|> y) = some a := rfl

theorem none_orElse {α : Type} (y : Option α) : (none <|> y) = y := rfl

theorem orElse_eq_some {α : Type} {x y : Option α} {a : α} :
    (x <|> y) = some a ↔ x = some a ∨ x = none ∧ y = some a := by
  cases x with
  | none => simp [none_orElse]
  | some b => simp [some_orElse]

theorem isSome_orElse {α : Type} (x y : Option α) : (x <|> y).isSome = (x.isSome || y.isSome) := by
  cases x with
  | none => rfl
  | some a => rfl

/-! ## Literal texts -/

namespace Pattern

theorem afterLiteral?_eq_some {cs text rest : List Char} :
    afterLiteral? cs text = some rest ↔ text = cs ++ rest := by
  induction cs generalizing text with
  | nil => simp [afterLiteral?, eq_comm]
  | cons c cs ih =>
    cases text with
    | nil => simp [afterLiteral?]
    | cons t text =>
      rw [afterLiteral?]
      split
      · next hct => rw [ih, beq_iff_eq.mp hct]; simp
      · next hct =>
        simp only [reduceCtorEq, List.cons_append, List.cons.injEq, false_iff, not_and]
        exact fun htc => absurd (beq_iff_eq.mpr htc.symm) hct

theorem advance_literal {α : Type} {k : Cursor → Option α} {groups : List (List Char)}
    (cs rest : List Char) :
    (literal cs).advance k ⟨cs ++ rest, groups⟩ = k ⟨rest, groups⟩ := by
  rw [advance, afterLiteral?_eq_some.mpr rfl, Option.bind_some]

end Pattern

/-! ## Runs -/

section Runs
variable {α : Type} {cls : CharClass} {k : List Char → Option α}

theorem longestFirst_reads {text : List Char} {r : α} (h : longestFirst cls k text = some r) :
    ∃ t later, text = t ++ later ∧ (∀ c ∈ t, cls.contains c) ∧ k later = some r := by
  induction text with
  | nil => exact ⟨[], [], rfl, by simp, h⟩
  | cons c cs ih =>
    rw [longestFirst] at h
    split at h
    · next hc =>
      rcases orElse_eq_some.mp h with h | ⟨_, h⟩
      · obtain ⟨t, later, rfl, ht, hk⟩ := ih h
        exact ⟨c :: t, later, rfl, List.forall_mem_cons.mpr ⟨hc, ht⟩, hk⟩
      · exact ⟨[], c :: cs, rfl, by simp, h⟩
    · exact ⟨[], c :: cs, rfl, by simp, h⟩

theorem longestFirst_isSome {t later : List Char} (ht : ∀ c ∈ t, cls.contains c)
    (hk : (k later).isSome) : (longestFirst cls k (t ++ later)).isSome := by
  induction t with
  | nil =>
    cases later with
    | nil => exact hk
    | cons c cs =>
      rw [List.nil_append, longestFirst]
      split
      · rw [isSome_orElse, hk, Bool.or_true]
      · exact hk
  | cons c t ih =>
    obtain ⟨hc, ht⟩ := List.forall_mem_cons.mp ht
    rw [List.cons_append, longestFirst, if_pos hc, isSome_orElse, ih ht, Bool.true_or]

/-- The run goes over `u` and stops before `t` when the rest of the work succeeds at `t` and fails
wherever else the run could go on to. -/
theorem longestFirst_eq {u t : List Char} {r : α} (hu : ∀ c ∈ u, cls.contains c) (ht : k t = some r)
    (hon : ∀ v s, v ≠ [] → (∀ c ∈ v, cls.contains c) → t = v ++ s → k s = none) :
    longestFirst cls k (u ++ t) = some r := by
  induction u with
  | nil =>
    cases t with
    | nil => exact ht
    | cons c cs =>
      rw [List.nil_append, longestFirst]
      split
      · next hc =>
        have hnone : longestFirst cls k cs = none := by
          rw [Option.eq_none_iff_forall_ne_some]
          intro r' hr'
          obtain ⟨v, s, rfl, hv, hk⟩ := longestFirst_reads hr'
          rw [hon (c :: v) s (by simp) (List.forall_mem_cons.mpr ⟨hc, hv⟩) rfl] at hk
          cases hk
        rw [hnone, none_orElse, ht]
      · exact ht
  | cons c u ih =>
    obtain ⟨hc, hu⟩ := List.forall_mem_cons.mp hu
    rw [List.cons_append, longestFirst, if_pos hc, ih hu, some_orElse]

end Runs

namespace Pattern

/-! ## The language of a pattern -/

/-- The stretches that a pattern describes; the end of the text is an empty one. -/
def Reads : Pattern → List Char → Prop
  | literal cs, t => t = cs
  | one cls, t => ∃ c, cls.contains c ∧ t = [c]
  | run cls, t => t ≠ [] ∧ ∀ c ∈ t, cls.contains c
  | optional p, t => p.Reads t ∨ t = []
  | either p q, t => p.Reads t ∨ q.Reads t
  | andThen p q, t => ∃ a b, t = a ++ b ∧ p.Reads a ∧ q.Reads b
  | group p, t => p.Reads t
  | atEnd, t => t = []

/-- The stretches that a pattern describes, with the texts of its groups in the order in which the
groups end. -/
def Captures : Pattern → List Char → List (List Char) → Prop
  | literal cs, t, gs => t = cs ∧ gs = []
  | one cls, t, gs => (∃ c, cls.contains c ∧ t = [c]) ∧ gs = []
  | run cls, t, gs => (t ≠ [] ∧ ∀ c ∈ t, cls.contains c) ∧ gs = []
  | optional p, t, gs => p.Captures t gs ∨ t = [] ∧ gs = []
  | either p q, t, gs => p.Captures t gs ∨ q.Captures t gs
  | andThen p q, t, gs =>
    ∃ a b fs hs, t = a ++ b ∧ gs = fs ++ hs ∧ p.Captures a fs ∧ q.Captures b hs
  | group p, t, gs => ∃ fs, gs = fs ++ [t] ∧ p.Captures t fs
  | atEnd, t, gs => t = [] ∧ gs = []

theorem Captures.reads {p : Pattern} {t : List Char} {gs : List (List Char)}
    (h : p.Captures t gs) : p.Reads t := by
  induction p generalizing t gs with
  | literal | one | run | atEnd => exact h.1
  | optional p ih => exact h.imp ih And.left
  | either p q ihp ihq => exact h.imp ihp ihq
  | andThen p q ihp ihq =>
    obtain ⟨a, b, _, _, ht, _, hp, hq⟩ := h
    exact ⟨a, b, ht, ihp hp, ihq hq⟩
  | group p ih =>
    obtain ⟨_, _, hp⟩ := h
    exact ih hp

/-- The text of a group is a piece of the stretch. -/
theorem Captures.isInfix {p : Pattern} {t : List Char} {gs : List (List Char)}
    (h : p.Captures t gs) {g : List Char} (hg : g ∈ gs) : g <:+: t := by
  induction p generalizing t gs with
  | literal | one | run | atEnd =>
    rw [h.2] at hg
    cases hg
  | optional p ih =>
    rcases h with h | ⟨_, rfl⟩
    · exact ih h hg
    · cases hg
  | either p q ihp ihq => exact h.elim (ihp · hg) (ihq · hg)
  | andThen p q ihp ihq =>
    obtain ⟨a, b, _, _, rfl, rfl, hp, hq⟩ := h
    rcases List.mem_append.mp hg with hg | hg
    · exact (ihp hp hg).trans (List.prefix_append a b).isInfix
    · exact (ihq hq hg).trans (List.suffix_append a b).isInfix
  | group p ih =>
    obtain ⟨fs, rfl, hp⟩ := h
    rcases List.mem_append.mp hg with hg | hg
    · exact ih hp hg
    · obtain rfl := List.mem_singleton.mp hg
      exact List.infix_refl g

theorem textUntil_append (u t : List Char) (groups : List (List Char)) :
    Cursor.textUntil ⟨u ++ t, groups⟩ t = u := by
  simp [Cursor.textUntil]

/-- **Whatever the search passes over is described by the pattern**, and the rest of the work
succeeds behind it, with the texts of the groups kept. -/
theorem advance_captures {α : Type} (p : Pattern) {k : Cursor → Option α} {at_ : Cursor} {r : α}
    (h : p.advance k at_ = some r) :
    ∃ t later gs, at_.rest = t ++ later ∧ p.Captures t gs ∧
      k ⟨later, gs.reverse ++ at_.groups⟩ = some r := by
  induction p generalizing k at_ with
  | literal cs =>
    rw [advance] at h
    obtain ⟨rest, hrest, hk⟩ := Option.bind_eq_some_iff.mp h
    exact ⟨cs, rest, [], afterLiteral?_eq_some.mp hrest, ⟨rfl, rfl⟩, hk⟩
  | one cls =>
    rw [advance] at h
    split at h
    · next c cs hrest =>
      split at h
      · next hc => exact ⟨[c], cs, [], hrest, ⟨⟨c, hc, rfl⟩, rfl⟩, h⟩
      · cases h
    · cases h
  | run cls =>
    rw [advance] at h
    split at h
    · next c cs hrest =>
      split at h
      · next hc =>
        obtain ⟨t, later, rfl, ht, hk⟩ := longestFirst_reads h
        exact ⟨c :: t, later, [], hrest,
          ⟨⟨by simp, List.forall_mem_cons.mpr ⟨hc, ht⟩⟩, rfl⟩, hk⟩
      · cases h
    · cases h
  | optional p ih =>
    rw [advance] at h
    rcases orElse_eq_some.mp h with h | ⟨_, h⟩
    · obtain ⟨t, later, gs, ht, hp, hk⟩ := ih h
      exact ⟨t, later, gs, ht, .inl hp, hk⟩
    · exact ⟨[], at_.rest, [], rfl, .inr ⟨rfl, rfl⟩, h⟩
  | either p q ihp ihq =>
    rw [advance] at h
    rcases orElse_eq_some.mp h with h | ⟨_, h⟩
    · obtain ⟨t, later, gs, ht, hp, hk⟩ := ihp h
      exact ⟨t, later, gs, ht, .inl hp, hk⟩
    · obtain ⟨t, later, gs, ht, hq, hk⟩ := ihq h
      exact ⟨t, later, gs, ht, .inr hq, hk⟩
  | andThen p q ihp ihq =>
    rw [advance] at h
    obtain ⟨a, mid, fs, ha, hp, h⟩ := ihp h
    obtain ⟨b, later, hs, hb, hq, hk⟩ := ihq h
    refine ⟨a ++ b, later, fs ++ hs, ?_, ⟨a, b, fs, hs, rfl, rfl, hp, hq⟩, ?_⟩
    · rw [ha, show mid = b ++ later from hb, List.append_assoc]
    · rwa [List.reverse_append, List.append_assoc]
  | group p ih =>
    rw [advance] at h
    obtain ⟨t, later, fs, ht, hp, hk⟩ := ih h
    refine ⟨t, later, fs ++ [t], ht, ⟨fs, rfl, hp⟩, ?_⟩
    have htext : at_.textUntil later = t := by
      rw [← textUntil_append t later at_.groups, ← ht]
    rw [htext] at hk
    rwa [List.reverse_concat]
  | atEnd =>
    rw [advance] at h
    split at h
    · exact ⟨[], at_.rest, [], rfl, ⟨rfl, rfl⟩, h⟩
    · cases h

theorem advance_reads {α : Type} (p : Pattern) {k : Cursor → Option α} {at_ : Cursor} {r : α}
    (h : p.advance k at_ = some r) :
    ∃ t later, at_.rest = t ++ later.rest ∧ p.Reads t ∧ k later = some r := by
  obtain ⟨t, later, gs, ht, hp, hk⟩ := advance_captures p h
  exact ⟨t, ⟨later, gs.reverse ++ at_.groups⟩, ht, hp.reads, hk⟩

/-- A match is a stretch of the text, and the texts of its groups are those of that stretch. -/
theorem matchHere_captures {p : Pattern} {text : List Char} {m : Found}
    (h : p.matchHere text = some m) :
    ∃ later, text = m.whole ++ later ∧ p.Captures m.whole m.groups := by
  obtain ⟨t, later, gs, rfl, hp, hk⟩ := advance_captures p h
  obtain rfl := Option.some.inj hk
  refine ⟨later, ?_, ?_⟩
  · rw [textUntil_append]
  · rwa [textUntil_append, List.append_nil, List.reverse_reverse]

theorem search_eq_some {p : Pattern} {text : List Char} {m : Found} (h : p.search text = some m) :
    ∃ before rest, text = before ++ rest ∧ p.matchHere rest = some m := by
  induction text with
  | nil => exact ⟨[], [], rfl, h⟩
  | cons c cs ih =>
    rw [search] at h
    rcases orElse_eq_some.mp h with h | ⟨_, h⟩
    · exact ⟨[], c :: cs, rfl, h⟩
    · obtain ⟨before, rest, rfl, hm⟩ := ih h
      exact ⟨c :: before, rest, rfl, hm⟩

theorem search_captures {p : Pattern} {text : List Char} {m : Found} (h : p.search text = some m) :
    ∃ before later, text = before ++ m.whole ++ later ∧ p.Captures m.whole m.groups := by
  obtain ⟨before, rest, rfl, hm⟩ := search_eq_some h
  obtain ⟨later, rfl, hp⟩ := matchHere_captures hm
  exact ⟨before, later, (List.append_assoc ..).symm, hp⟩

theorem search_reads {p : Pattern} {text : List Char} {m : Found} (h : p.search text = some m) :
    ∃ before t later, text = before ++ t ++ later ∧ p.Reads t := by
  obtain ⟨before, later, ht, hp⟩ := search_captures h
  exact ⟨before, m.whole, later, ht, hp.reads⟩

/-- A pattern is not found in a text that has no stretch of its language. -/
theorem search_eq_none {p : Pattern} {text : List Char}
    (h : ∀ before t later, text = before ++ t ++ later → ¬ p.Reads t) : p.search text = none := by
  rw [Option.eq_none_iff_forall_ne_some]
  intro m hm
  obtain ⟨before, t, later, ht, hp⟩ := search_reads hm
  exact h before t later ht hp

/-- A match that begins where the text does is the one that is found. -/
theorem search_of_matchHere {p : Pattern} {text : List Char} {m : Found}
    (h : p.matchHere text = some m) : p.search text = some m := by
  cases text with
  | nil => exact h
  | cons c cs => rw [search, h, some_orElse]

/-- The pattern does not ask for the end of the text. -/
def Unanchored : Pattern → Prop
  | literal _ | one _ | run _ => True
  | optional p | group p => p.Unanchored
  | either p q | andThen p q => p.Unanchored ∧ q.Unanchored
  | atEnd => False

/-- Where a stretch of the language stands and the rest of the work succeeds behind it, the search
succeeds as well, on this way or on one that it prefers. -/
theorem advance_isSome {α : Type} (p : Pattern) (hp : p.Unanchored) {k : Cursor → Option α}
    {at_ : Cursor} {t later : List Char} (hrest : at_.rest = t ++ later) (ht : p.Reads t)
    (hk : ∀ groups, (k ⟨later, groups⟩).isSome) : (p.advance k at_).isSome := by
  induction p generalizing k at_ t later with
  | literal cs =>
    obtain rfl := ht
    rw [advance, hrest, afterLiteral?_eq_some.mpr rfl, Option.bind_some]
    exact hk _
  | one cls =>
    obtain ⟨c, hc, rfl⟩ := ht
    rw [advance, hrest]
    simp only [List.singleton_append, hc, if_true]
    exact hk _
  | run cls =>
    obtain ⟨hne, hall⟩ := ht
    cases t with
    | nil => exact absurd rfl hne
    | cons c t =>
      obtain ⟨hc, hall⟩ := List.forall_mem_cons.mp hall
      rw [advance, hrest]
      simp only [List.cons_append, hc, if_true]
      exact longestFirst_isSome hall (hk _)
  | optional p ih =>
    rw [advance, isSome_orElse]
    rcases ht with ht | rfl
    · rw [ih hp hrest ht hk, Bool.true_or]
    · rw [show at_ = ⟨later, at_.groups⟩ from by rw [← List.nil_append later, ← hrest], hk,
        Bool.or_true]
  | either p q ihp ihq =>
    rw [advance, isSome_orElse]
    rcases ht with ht | ht
    · rw [ihp hp.1 hrest ht hk, Bool.true_or]
    · rw [ihq hp.2 hrest ht hk, Bool.or_true]
  | andThen p q ihp ihq =>
    obtain ⟨a, b, rfl, ha, hb⟩ := ht
    rw [advance]
    refine ihp hp.1 (hrest.trans (List.append_assoc a b later)) ha fun groups => ?_
    exact ihq hp.2 rfl hb hk
  | group p ih =>
    rw [advance]
    exact ih hp hrest ht fun groups => hk _
  | atEnd => exact hp.elim

/-- A pattern that does not ask for the end of the text is found exactly in the texts that have a
stretch of its language. -/
theorem search_isSome_iff {p : Pattern} (hp : p.Unanchored) {text : List Char} :
    (p.search text).isSome ↔ ∃ before t later, text = before ++ t ++ later ∧ p.Reads t := by
  constructor
  · intro h
    obtain ⟨m, hm⟩ := Option.isSome_iff_exists.mp h
    exact search_reads hm
  · rintro ⟨before, t, later, rfl, ht⟩
    have hhere : (p.matchHere (t ++ later)).isSome := advance_isSome p hp rfl ht fun _ => rfl
    induction before with
    | nil =>
      obtain ⟨m, hm⟩ := Option.isSome_iff_exists.mp hhere
      rw [List.nil_append, search_of_matchHere hm]
      rfl
    | cons c before ih =>
      rw [List.cons_append, List.cons_append, search, isSome_orElse, ih, Bool.or_true]

/-- The search goes on behind what no match begins in. -/
theorem search_append {p : Pattern} {before rest : List Char}
    (h : ∀ u, u <:+ before → u ≠ [] → p.matchHere (u ++ rest) = none) :
    p.search (before ++ rest) = p.search rest := by
  induction before with
  | nil => rfl
  | cons c before ih =>
    rw [List.cons_append, search, ← List.cons_append, h (c :: before) List.suffix_rfl (by simp),
      none_orElse]
    exact ih fun u hu => h u (hu.trans (List.suffix_cons c before))

/-! ## Going over a text piece by piece -/

section Steps
variable {α : Type} {k : Cursor → Option α} {groups : List (List Char)}

theorem advance_eq_none {p : Pattern} {at_ : Cursor}
    (h : ∀ t later, at_.rest = t ++ later → ¬ p.Reads t) : p.advance k at_ = none := by
  rw [Option.eq_none_iff_forall_ne_some]
  intro r hr
  obtain ⟨t, later, ht, hp, _⟩ := advance_reads p hr
  exact h t later.rest ht hp

/-- An optional part is left out where it does not stand. -/
theorem advance_optional_absent {p : Pattern} {at_ : Cursor}
    (h : ∀ t later, at_.rest = t ++ later → ¬ p.Reads t) :
    (optional p).advance k at_ = k at_ := by
  rw [advance, advance_eq_none h, none_orElse]

theorem advance_optional_present {p : Pattern} {at_ : Cursor} {r : α}
    (h : p.advance k at_ = some r) : (optional p).advance k at_ = some r := by
  rw [advance, h, some_orElse]

theorem advance_either_left {p q : Pattern} {at_ : Cursor} {r : α}
    (h : p.advance k at_ = some r) : (either p q).advance k at_ = some r := by
  rw [advance, h, some_orElse]

theorem advance_either_right {p q : Pattern} {at_ : Cursor}
    (h : ∀ t later, at_.rest = t ++ later → ¬ p.Reads t) :
    (either p q).advance k at_ = q.advance k at_ := by
  rw [advance, advance_eq_none h, none_orElse]

theorem advance_run {cls : CharClass} {u t : List Char} {r : α} (hne : u ≠ [])
    (hu : ∀ c ∈ u, cls.contains c) (ht : k ⟨t, groups⟩ = some r)
    (hon : ∀ v s, v ≠ [] → (∀ c ∈ v, cls.contains c) → t = v ++ s → k ⟨s, groups⟩ = none) :
    (run cls).advance k ⟨u ++ t, groups⟩ = some r := by
  cases u with
  | nil => exact absurd rfl hne
  | cons c u =>
    obtain ⟨hc, hu⟩ := List.forall_mem_cons.mp hu
    rw [List.cons_append, advance]
    simp only [hc, if_true]
    exact longestFirst_eq hu ht hon

end Steps

end Pattern

end FolderTalk.Command
