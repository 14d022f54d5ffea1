import FolderTalk.Proofs.Config.Reordered
import FolderTalk.Proofs.Config.Writes
import FolderTalk.Proofs.Yaml.Distinct

/-!
# One value in place of another

When one value of a layer is exchanged for another one, the writes before and after it stay the
same. What the layer makes of a mapping then differs at the path of that value and below it at most,
and at the path itself stands what was written there last.

* `Layout.AgreesOff` : the same stands at all paths that neither lead through a path nor lie on it;
* `writeAll?_exchange`, `writeAll?_last` : what is written by exchanged writes;
* `set_writes` : how the writes of a mapping change when an entry is set.
-/

namespace FolderTalk

/-! ## What writes leave -/

/-- The same stands everywhere but at the path, on the way to it and below it. -/
def Layout.AgreesOff (at_ : List String) (l l' : Layout) : Prop :=
  ∀ path, ¬at_ <+: path → ¬path <+: at_ → l path = l' path

/-- A write is below a path, or only puts a mapping on the way to it. -/
def Write.Along (at_ : List String) (w : Write) : Prop :=
  at_ <+: w.path ∨ w.path <+: at_ ∧ w.spot = .mapping

section
variable {at_ : List String} {l l' : Layout} {w : Write} {ws : List Write}

theorem Layout.AgreesOff.refl (at_ : List String) (l : Layout) : l.AgreesOff at_ l := fun _ _ _ => rfl

theorem Layout.AgreesOff.symm (h : l.AgreesOff at_ l') : l'.AgreesOff at_ l :=
  fun path hbelow habove => (h path hbelow habove).symm

theorem Layout.AgreesOff.trans {l'' : Layout} (h : l.AgreesOff at_ l') (h' : l'.AgreesOff at_ l'') :
    l.AgreesOff at_ l'' :=
  fun path hbelow habove => (h path hbelow habove).trans (h' path hbelow habove)

theorem Layout.write?_eq_some (h : l.write? w = some l') : l.leads w.path = true ∧ l' = w.onto l := by
  unfold write? at h
  split at h
  · next hleads => exact ⟨hleads, (Option.some.inj h).symm⟩
  · cases h

theorem Write.not_under_prefix (w : Write) (at_ : List String) : ¬(w.under at_).path <+: at_ := by
  intro hinitial
  have hlength := hinitial.length_le
  have hpath := List.length_pos_of_ne_nil w.path_ne
  simp only [Write.under, List.length_append] at hlength
  omega

/-- A write along a path changes nothing elsewhere. -/
theorem Write.Along.onto (h : w.Along at_) (l : Layout) : l.AgreesOff at_ (w.onto l) := by
  intro path hbelow habove
  have hat : w.at? path = none := by
    cases hat : w.at? path with
    | none => rfl
    | some s =>
      exfalso
      have hpath := w.prefix_of_at? hat
      rcases h with h | ⟨h, -⟩
      · exact (List.prefix_or_prefix_of_prefix hpath h).elim habove hbelow
      · exact habove (hpath.trans h)
  have hclears : w.clears path = false := by
    rw [← Bool.not_eq_true]
    intro hclears
    obtain ⟨hleaf, hinitial⟩ := Bool.and_eq_true_iff.mp hclears
    rcases h with h | ⟨-, h⟩
    · exact hbelow (h.trans (List.isPrefixOf_iff_prefix.mp hinitial))
    · rw [h] at hleaf
      cases hleaf
  rw [Write.onto, hat, hclears]
  rfl

theorem Layout.AgreesOff.onto (h : l.AgreesOff at_ l') (w : Write) :
    (w.onto l).AgreesOff at_ (w.onto l') := by
  intro path hbelow habove
  rw [Write.onto, Write.onto, h path hbelow habove]

theorem Layout.agreesOff_of_along (h : l.writeAll? ws = some l') (hws : ∀ w ∈ ws, w.Along at_) :
    l.AgreesOff at_ l' := by
  induction ws generalizing l with
  | nil =>
    rw [← Option.some.inj h]
    exact .refl at_ l
  | cons w ws ih =>
    obtain ⟨hw, hws⟩ := List.forall_mem_cons.mp hws
    obtain ⟨next, hnext, hrest⟩ := Option.bind_eq_some_iff.mp h
    obtain ⟨-, rfl⟩ := write?_eq_some hnext
    exact (hw.onto l).trans (ih hrest hws)

theorem Layout.AgreesOff.writeAll? {m m' : Layout} (h : l.AgreesOff at_ l')
    (hm : l.writeAll? ws = some m) (hm' : l'.writeAll? ws = some m') : m.AgreesOff at_ m' := by
  induction ws generalizing l l' with
  | nil =>
    rw [← Option.some.inj hm, ← Option.some.inj hm']
    exact h
  | cons w ws ih =>
    obtain ⟨next, hnext, hrest⟩ := Option.bind_eq_some_iff.mp hm
    obtain ⟨next', hnext', hrest'⟩ := Option.bind_eq_some_iff.mp hm'
    obtain ⟨-, rfl⟩ := write?_eq_some hnext
    obtain ⟨-, rfl⟩ := write?_eq_some hnext'
    exact ih (h.onto w) hrest hrest'

/-- **Writes along a path in place of others**: elsewhere stands the same. -/
theorem Layout.writeAll?_exchange {us old new vs : List Write} {m m' : Layout}
    (hm : l.writeAll? (us ++ old ++ vs) = some m) (hm' : l.writeAll? (us ++ new ++ vs) = some m')
    (hold : ∀ w ∈ old, w.Along at_) (hnew : ∀ w ∈ new, w.Along at_) : m.AgreesOff at_ m' := by
  simp only [writeAll?_append, Option.bind_eq_some_iff] at hm hm'
  obtain ⟨x, ⟨a, ha, hx⟩, hm⟩ := hm
  obtain ⟨x', ⟨a', ha', hx'⟩, hm'⟩ := hm'
  obtain rfl : a = a' := Option.some.inj (ha.symm.trans ha')
  have hmiddle := (agreesOff_of_along hx hold).symm.trans (agreesOff_of_along hx' hnew)
  exact hmiddle.writeAll? hm hm'

/-- What stands at a path is left by writes that do not end there or on the way to it. -/
theorem Layout.writeAll?_stands {s : Spot} (hs : l at_ = some s) (h : l.writeAll? ws = some l')
    (hws : ∀ w ∈ ws, ¬w.path <+: at_) : l' at_ = some s := by
  induction ws generalizing l with
  | nil => exact Option.some.inj h ▸ hs
  | cons w ws ih =>
    obtain ⟨hw, hws⟩ := List.forall_mem_cons.mp hws
    obtain ⟨next, hnext, hrest⟩ := Option.bind_eq_some_iff.mp h
    obtain ⟨hleads, rfl⟩ := write?_eq_some hnext
    refine ih ?_ hrest hws
    have hclears : w.clears at_ = false := by
      rw [← Bool.not_eq_true]
      exact fun hclears => hw (List.isPrefixOf_iff_prefix.mp (Bool.and_eq_true_iff.mp hclears).2)
    rw [Write.onto, hclears]
    unfold Write.at?
    rw [if_neg fun heq : at_ = w.path => hw (heq ▸ List.prefix_refl _)]
    by_cases hbelow : at_ <+: w.path
    · -- Only below a mapping is there anything to write.
      cases s with
      | mapping => rw [if_pos hbelow]; rfl
      | leaf v =>
        exact absurd ((leads_iff.mp hleads at_ v hbelow hs) ▸ List.prefix_refl _) hw
    · rw [if_neg hbelow]
      exact hs

/-- **The last write** at a path or on the way to it decides on what stands there. -/
theorem Layout.writeAll?_last {us vs : List Write} (h : l.writeAll? (us ++ w :: vs) = some l')
    (hvs : ∀ v ∈ vs, ¬v.path <+: w.path) : l' w.path = some w.spot := by
  rw [writeAll?_append, Option.bind_eq_some_iff] at h
  obtain ⟨a, -, h⟩ := h
  obtain ⟨next, hnext, hrest⟩ := Option.bind_eq_some_iff.mp h
  obtain ⟨-, rfl⟩ := write?_eq_some hnext
  exact writeAll?_stands (w.onto_path a) hrest hvs

end

namespace Config

/-! ## The writes of entries -/

section Entries
variable {es es' : Entries} {e : Value × Value} {key : String} {x : Value} {w : Write}
  {ws ws' : List Write}

theorem writes?_cons_eq_some (h : writes? (e :: es) = some ws) :
    ∃ us vs, entryWrites? e = some us ∧ writes? es = some vs ∧ ws = us ++ vs := by
  rw [writes?] at h
  obtain ⟨us, hus, h⟩ := Option.bind_eq_some_iff.mp h
  obtain ⟨vs, hvs, rfl⟩ := Option.map_eq_some_iff.mp h
  exact ⟨us, vs, hus, hvs, rfl⟩

theorem writes?_append_eq_some (h : writes? (es ++ es') = some ws) :
    ∃ us vs, writes? es = some us ∧ writes? es' = some vs ∧ ws = us ++ vs := by
  induction es generalizing ws with
  | nil => exact ⟨[], ws, by rw [writes?], h, rfl⟩
  | cons e es ih =>
    obtain ⟨us, vs, hus, hvs, rfl⟩ := writes?_cons_eq_some h
    obtain ⟨us', vs', hus', hvs', rfl⟩ := ih hvs
    refine ⟨us ++ us', vs', ?_, hvs', (List.append_assoc _ _ _).symm⟩
    rw [writes?, hus, hus']
    rfl

theorem textWrites?_eq_some (h : entryWrites? (.text key, x) = some ws) :
    ∃ us, innerWrites? x = some us ∧
      ws = ⟨keyPath key, x.spot, keyPath_ne_nil key⟩ :: us.map (·.under (keyPath key)) := by
  rw [entryWrites?] at h
  obtain ⟨us, hus, rfl⟩ := Option.map_eq_some_iff.mp h
  exact ⟨us, hus, rfl⟩

/-- Only an entry whose key is a text writes anything. -/
theorem entryWrites?_eq_some (h : entryWrites? e = some ws) :
    ∃ key v us, e = (.text key, v) ∧ innerWrites? v = some us := by
  obtain ⟨k, v⟩ := e
  cases k with
  | text key =>
    obtain ⟨us, hus, -⟩ := textWrites?_eq_some h
    exact ⟨key, v, us, rfl, hus⟩
  | _ => simp [entryWrites?] at h

theorem entryWrites?_of_mem (h : writes? es = some ws) (he : e ∈ es) :
    ∃ us, entryWrites? e = some us := by
  obtain ⟨before, after, rfl⟩ := List.append_of_mem he
  obtain ⟨_, vs, -, hvs, -⟩ := writes?_append_eq_some h
  obtain ⟨us, _, hus, -, -⟩ := writes?_cons_eq_some hvs
  exact ⟨us, hus⟩

/-- An entry writes at the path of its key and below. -/
theorem keyPath_prefix (h : entryWrites? (.text key, x) = some ws) (hw : w ∈ ws) :
    keyPath key <+: w.path := by
  obtain ⟨us, -, rfl⟩ := textWrites?_eq_some h
  rcases List.mem_cons.mp hw with rfl | hw
  · exact List.prefix_refl _
  · obtain ⟨u, -, rfl⟩ := List.mem_map.mp hw
    exact List.prefix_append _ _

theorem exists_key_of_mem_writes? (h : writes? es = some ws) (hw : w ∈ ws) :
    ∃ key v, (.text key, v) ∈ es ∧ keyPath key <+: w.path := by
  induction es generalizing ws with
  | nil =>
    rw [writes?] at h
    obtain rfl := Option.some.inj h
    cases hw
  | cons e es ih =>
    obtain ⟨us, vs, hus, hvs, rfl⟩ := writes?_cons_eq_some h
    rcases List.mem_append.mp hw with hw | hw
    · obtain ⟨key, v, -, rfl, -⟩ := entryWrites?_eq_some hus
      exact ⟨key, v, List.mem_cons_self, keyPath_prefix hus hw⟩
    · obtain ⟨key, v, hmem, hinitial⟩ := ih hvs hw
      exact ⟨key, v, List.mem_cons_of_mem _ hmem, hinitial⟩

/-- A mapping without repeated keys is tidy if all of its keys are texts. -/
theorem tidy_of_distinct {v : Value} (hv : v.Distinct) :
    ∀ {es : Entries} {ws : List Write}, v = .map es → writes? es = some ws → es.Tidy := by
  induction hv with
  | leaf h => exact fun heq => absurd heq (h _)
  | @map es hkeys _ ih =>
    rintro _ ws heq hws
    obtain rfl := Value.map.inj heq
    have htexts : ∀ e ∈ es, ∃ key, e.1 = .text key := by
      intro e he
      obtain ⟨us, hus⟩ := entryWrites?_of_mem hws he
      obtain ⟨key, _, _, rfl, -⟩ := entryWrites?_eq_some hus
      exact ⟨key, rfl⟩
    refine .of htexts (List.pairwise_map.mpr ?_) fun e he inner hinner => ?_
    · refine hkeys.imp_of_mem fun {d e} hd _ hother heq => ?_
      obtain ⟨key, hkey⟩ := htexts d hd
      rw [← heq, hkey, same_text, beq_self_eq_true] at hother
      cases hother
    · obtain ⟨us, hus⟩ := entryWrites?_of_mem hws he
      obtain ⟨_, _, us, rfl, hinside⟩ := entryWrites?_eq_some hus
      obtain rfl : _ = Value.map inner := hinner
      exact ih _ he rfl hinside

/-- **An entry that is set** keeps the writes before it and after it. -/
theorem set_writes (htidy : es.Tidy) (h : writes? es = some ws)
    (h' : writes? (es.set key x) = some ws') :
    ∃ us old new vs, ws = us ++ old ++ vs ∧ ws' = us ++ new ++ vs ∧
      entryWrites? (.text key, x) = some new ∧
      (es.get? key = none ∧ old = [] ∧ vs = [] ∨ ∃ y before after,
        es = before ++ (.text key, y) :: after ∧ entryWrites? (.text key, y) = some old ∧
        writes? after = some vs) := by
  cases hget : es.get? key with
  | none =>
    rw [htidy.set_of_get?_none hget] at h'
    obtain ⟨us, vs, hus, hvs, rfl⟩ := writes?_append_eq_some h'
    obtain ⟨new, rest, hnew, hrest, rfl⟩ := writes?_cons_eq_some hvs
    rw [writes?] at hrest
    obtain rfl := Option.some.inj hrest
    obtain rfl : ws = us := Option.some.inj (h.symm.trans hus)
    exact ⟨ws, [], new, [], by simp, by simp, hnew, .inl ⟨rfl, rfl, rfl⟩⟩
  | some y =>
    obtain ⟨before, after, rfl⟩ := List.append_of_mem (htidy.get?_eq_some_iff.mp hget)
    rw [htidy.set_append_cons] at h'
    obtain ⟨us, rest, hus, hrest, rfl⟩ := writes?_append_eq_some h
    obtain ⟨us', rest', hus', hrest', rfl⟩ := writes?_append_eq_some h'
    obtain ⟨old, vs, hold, hvs, rfl⟩ := writes?_cons_eq_some hrest
    obtain ⟨new, vs', hnew, hvs', rfl⟩ := writes?_cons_eq_some hrest'
    obtain rfl : us = us' := Option.some.inj (hus.symm.trans hus')
    obtain rfl : vs = vs' := Option.some.inj (hvs.symm.trans hvs')
    exact ⟨us, old, new, vs, by simp, by simp, hnew, .inr ⟨y, before, after, rfl, hold, hvs⟩⟩

end Entries

end Config

end FolderTalk
