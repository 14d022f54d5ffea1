import FolderTalk.Proofs.Json.Reading
import FolderTalk.Schema.Check
import FolderTalk.Store.Data
import Mathlib.Data.List.Nodup
import Mathlib.Data.List.Perm.Basic

/-!
# Data that is checked back

A record is stored as a value, and what is found later may be another value that is the same up to
the spelling of numbers and the order of entries.

* `Returns` : checking gives the record back from its own value and nothing else from a value that
  is the same;
* `returns_list`, `returns_record` : lists and records of such data are such data.
-/

namespace FolderTalk

open Value Schema Json

namespace Value

/-! ## Values that are the same -/

theorem sameItems_self {vs : List Value} (h : ∀ v ∈ vs, v.same v) : sameItems vs vs := by
  induction vs with
  | nil => rw [sameItems]
  | cons v vs ih =>
    obtain ⟨hv, hvs⟩ := List.forall_mem_cons.mp h
    rw [sameItems, hv, ih hvs]
    rfl

theorem sameEntries_iff {es ds : Entries} :
    sameEntries es ds ↔ ∀ e ∈ es, ∃ d ∈ ds, e.1.same d.1 ∧ e.2.same d.2 := by
  induction es with
  | nil => simp [sameEntries]
  | cons e es ih =>
    obtain ⟨k, v⟩ := e
    rw [sameEntries, Bool.and_eq_true, ih, List.forall_mem_cons, sameEntry, List.any_eq_true]
    simp only [Bool.and_eq_true]

/-- A value of JSON text is the same as itself. -/
theorem same_self {v : Value} (h : Storable v) : v.same v := by
  refine BuiltFrom.induction (P := fun v => v.same v) ?_ ?_ ?_ v h
  · intro v hv
    cases v with
    | float _ | date _ | moment _ | list _ | map _ => cases hv
    | _ => simp [same, number?]
  · intro vs hvs
    rw [same]
    exact sameItems_self hvs
  · intro es hes hsame
    rw [same, beq_self_eq_true, Bool.true_and, sameEntries_iff]
    intro e he
    obtain ⟨s, hs⟩ := (entriesFrom_iff.mp hes.2 e he).1
    exact ⟨e, he, by rw [hs, same_text, beq_self_eq_true], hsame e he⟩

theorem keyed_of_storable {v : Value} (h : Storable v) : Keyed v := by
  refine BuiltFrom.mono (fun v hv => ?_) h
  cases v with
  | list _ | map _ => cases hv
  | _ => trivial

/-- In mappings with texts for keys, entries of the same key and value have one key. -/
theorem exists_partner {es ds : Entries} {e : Value × Value} (hes : Keyed (.map es))
    (hds : Keyed (.map ds)) (h : ∀ e ∈ es, ∃ d ∈ ds, e.1.same d.1 ∧ e.2.same d.2) (he : e ∈ es) :
    ∃ d ∈ ds, e.1 = d.1 ∧ e.2.same d.2 := by
  obtain ⟨d, hd, hkey, hvalue⟩ := h e he
  obtain ⟨s, hs⟩ := (entriesFrom_iff.mp hes.2 e he).1
  obtain ⟨t, ht⟩ := (entriesFrom_iff.mp hds.2 d hd).1
  rw [hs, ht, same_text, beq_iff_eq] at hkey
  exact ⟨d, hd, by rw [hs, ht, hkey], hvalue⟩

/-- Distinct keys, all of them among as many others, are all of the others. -/
theorem keys_perm {es ds : Entries} (hdistinct : (es.map Prod.fst).Nodup)
    (hlength : es.length = ds.length) (h : ∀ e ∈ es, ∃ d ∈ ds, e.1 = d.1) :
    (es.map Prod.fst).Perm (ds.map Prod.fst) := by
  have hsubset : es.map Prod.fst ⊆ ds.map Prod.fst := by
    intro key hkey
    obtain ⟨e, he, rfl⟩ := List.mem_map.mp hkey
    obtain ⟨d, hd, heq⟩ := h e he
    exact heq ▸ List.mem_map_of_mem hd
  exact (List.subperm_of_subset hdistinct hsubset).perm_of_length_le
    (by simpa using Nat.le_of_eq hlength.symm)

/-- Of two mappings that are the same, each finds under a key what the other holds there. -/
theorem get?_of_same {es ds : Entries} {k : String} {v : Value} (hes : Keyed (.map es))
    (hds : Keyed (.map ds)) (h : (Value.map es).same (.map ds)) (hmem : (.text k, v) ∈ ds) :
    ∃ w, es.get? k = some w ∧ Keyed w ∧ w.same v := by
  rw [same, Bool.and_eq_true, beq_iff_eq, sameEntries_iff] at h
  obtain ⟨hlength, hsame⟩ := h
  have hleft := entriesFrom_iff.mp hes.2
  have hpartner := fun e he => exists_partner (e := e) hes hds hsame he
  have hperm := keys_perm hes.1 hlength fun e he => (hpartner e he).imp fun _ h => ⟨h.1, h.2.1⟩
  have hkey : Value.text k ∈ es.map Prod.fst := hperm.mem_iff.mpr (List.mem_map_of_mem hmem)
  obtain ⟨e₀, he₀, hk₀⟩ := List.mem_map.mp hkey
  have hfound : (List.find? (fun e => (Value.text k).same e.1) es).isSome :=
    List.find?_isSome.mpr ⟨e₀, he₀, by rw [hk₀, same_text, beq_self_eq_true]⟩
  obtain ⟨e, he⟩ := Option.isSome_iff_exists.mp hfound
  have hemem := List.mem_of_find?_eq_some he
  obtain ⟨s, hs⟩ := (hleft e hemem).1
  have hks := List.find?_some he
  rw [hs, same_text, beq_iff_eq] at hks
  obtain ⟨d, hd, heq, hvalue⟩ := hpartner e hemem
  have hd' : d = (.text k, v) :=
    List.inj_on_of_nodup_map hds.1 hd hmem (by rw [← heq, hs, hks])
  refine ⟨e.2, ?_, (hleft e hemem).2, ?_⟩
  · rw [Entries.get?, Entries.find?, he, Option.map_some]
  · rw [hd'] at hvalue
    exact hvalue

end Value

namespace Schema

/-- Checking gives a record back from its own value, and no other record from a value that is the
same; the value fits into JSON text and has no more than so many levels of containers. -/
structure Returns {α : Type} (levels : Nat) (check : Value → Checked α) (toValue : α → Value) :
    Prop where
  check_toValue : ∀ a, check (toValue a) = .valid a
  eq_of_same : ∀ {v a b}, Keyed v → v.same (toValue a) → check v = .valid b → b = a
  storable : ∀ a, Storable (toValue a)
  depth_le : ∀ a, depth (toValue a) ≤ levels

/-! ## Single values -/

theorem toInt?_of_integerOfFloat {x : Binary64} {n : Int} (h : integerOfFloat x = .valid n) :
    x.toInt? = some n := by
  unfold integerOfFloat at h
  split at h
  · split at h
    · next hx =>
      split at h
      · cases h
        exact hx
      · cases h
    · cases h
  · cases h

theorem returns_integer : Returns 0 integer Value.int where
  check_toValue _ := rfl
  eq_of_same := by
    intro v a b _ hsame hcheck
    cases v with
    | bool c =>
      cases hcheck
      rw [Value.same, Value.number?, beq_iff_eq] at hsame
      exact (Option.some.inj hsame).symm
    | int n =>
      cases hcheck
      rw [Value.same, Value.number?, beq_iff_eq] at hsame
      exact (Option.some.inj hsame).symm
    | float x =>
      have hx := toInt?_of_integerOfFloat hcheck
      simpa [Value.same, hx] using hsame
    | text s => simp [Value.same] at hsame
    | _ => cases hcheck
  storable _ := trivial
  depth_le _ := Nat.le_refl 0

theorem eq_text_of_same {v : Value} {s : String} (h : v.same (.text s)) : v = .text s := by
  cases v with
  | text t => rw [same_text, beq_iff_eq] at h; rw [h]
  | _ => simp [Value.same, Value.number?] at h

theorem eq_null_of_same {v : Value} (h : v.same .null) : v = .null := by
  cases v with
  | null => rfl
  | _ => simp [Value.same, Value.number?] at h

theorem returns_text : Returns 0 text Value.text where
  check_toValue _ := rfl
  eq_of_same := by
    intro v a b _ hsame hcheck
    rw [eq_text_of_same hsame] at hcheck
    cases hcheck
    rfl
  storable _ := trivial
  depth_le _ := Nat.le_refl 0

theorem eq_of_same_optionalText {v : Value} {a : Option String}
    (h : v.same (.ofOptionalText a)) : v = .ofOptionalText a := by
  cases a with
  | none => exact eq_null_of_same h
  | some s => exact eq_text_of_same h

theorem returns_optionalText : Returns 0 optionalText Value.ofOptionalText where
  check_toValue a := by cases a <;> rfl
  eq_of_same := by
    intro v a b _ hsame hcheck
    rw [eq_of_same_optionalText hsame] at hcheck
    cases a <;> cases hcheck <;> rfl
  storable a := by cases a <;> trivial
  depth_le a := by cases a <;> exact Nat.le_refl 0

theorem returns_oneOf {α : Type} {find? : String → Option α} {name : α → String}
    (h : ∀ a, find? (name a) = some a) (choices : List String) :
    Returns 0 (oneOf find? choices) fun a => Value.text (name a) where
  check_toValue a := by simp [oneOf, h]
  eq_of_same := by
    intro v a b _ hsame hcheck
    rw [eq_text_of_same hsame] at hcheck
    simpa [oneOf, h] using hcheck.symm
  storable _ := trivial
  depth_le _ := Nat.le_refl 0

/-! ## Lists -/

section Parts
variable {α β : Type} {levels : Nat} {check : Value → Checked α} {toValue : α → Value}

theorem valid_of_app {f : Checked (α → β)} {x : Checked α} {b : β} (h : f.app x = .valid b) :
    ∃ g a, f = .valid g ∧ x = .valid a ∧ b = g a := by
  cases f <;> cases x <;> cases h
  exact ⟨_, _, rfl, rfl, rfl⟩

theorem valid_of_under {step : Step} {x : Checked α} {a : α} (h : x.under step = .valid a) :
    x = .valid a := by
  cases x <;> cases h
  rfl

theorem valid_of_map {f : α → β} {x : Checked α} {b : β} (h : x.map f = .valid b) :
    ∃ a, x = .valid a ∧ b = f a := by
  cases x <;> cases h
  exact ⟨_, rfl, rfl⟩

theorem Returns.itemsFrom_map (h : Returns levels check toValue) (n : Nat) (as : List α) :
    itemsFrom check n (as.map toValue) = .valid as := by
  induction as generalizing n with
  | nil => rfl
  | cons a as ih =>
    rw [List.map_cons, itemsFrom, ih, h.check_toValue]
    rfl

theorem Returns.eq_of_sameItems (h : Returns levels check toValue) {n : Nat} {vs : List Value}
    {as bs : List α} (hvs : ∀ v ∈ vs, Keyed v) (hsame : sameItems vs (as.map toValue))
    (hcheck : itemsFrom check n vs = .valid bs) : bs = as := by
  induction vs generalizing n as bs with
  | nil =>
    cases as with
    | nil => cases hcheck; rfl
    | cons a as => simp [sameItems] at hsame
  | cons v vs ih =>
    cases as with
    | nil => simp [sameItems] at hsame
    | cons a as =>
      obtain ⟨hv, hvs⟩ := List.forall_mem_cons.mp hvs
      rw [List.map_cons, sameItems, Bool.and_eq_true] at hsame
      rw [itemsFrom] at hcheck
      obtain ⟨g, bs, hg, hrest, rfl⟩ := valid_of_app hcheck
      obtain ⟨b, hb, rfl⟩ := valid_of_map hg
      rw [h.eq_of_same hv hsame.1 (valid_of_under hb), ih hvs hsame.2 hrest]

theorem itemsDepth_le {n : Nat} {vs : List Value} (h : ∀ v ∈ vs, depth v ≤ n) :
    itemsDepth vs ≤ n := by
  induction vs with
  | nil => exact Nat.zero_le n
  | cons v vs ih =>
    obtain ⟨hv, hvs⟩ := List.forall_mem_cons.mp h
    exact Nat.max_le.mpr ⟨hv, ih hvs⟩

theorem returns_list (h : Returns levels check toValue) :
    Returns (levels + 1) (listOf check) fun as => .list (as.map toValue) where
  check_toValue as := h.itemsFrom_map 0 as
  eq_of_same := by
    intro v as bs hv hsame hcheck
    cases v with
    | list vs =>
      rw [Value.same] at hsame
      exact h.eq_of_sameItems (itemsFrom_iff.mp hv) hsame hcheck
    | _ => cases hcheck
  storable as := by
    refine itemsFrom_iff.mpr fun v hv => ?_
    obtain ⟨a, _, rfl⟩ := List.mem_map.mp hv
    exact h.storable a
  depth_le as := by
    refine Nat.succ_le_succ (itemsDepth_le fun v hv => ?_)
    obtain ⟨a, _, rfl⟩ := List.mem_map.mp hv
    exact h.depth_le a

/-! ## Records -/

/-- A value like `v` is found under a key. -/
def Finds (es : Entries) (k : String) (v : Value) : Prop :=
  ∃ w, es.get? k = some w ∧ Keyed w ∧ w.same v

theorem Returns.eq_of_required (h : Returns levels check toValue) {es : Entries} {k : String}
    {a b : α} (hfind : Finds es k (toValue a)) (hcheck : required es k check = .valid b) : b = a := by
  obtain ⟨w, hw, hkeyed, hsame⟩ := hfind
  rw [required, hw] at hcheck
  exact h.eq_of_same hkeyed hsame (valid_of_under hcheck)

theorem Returns.eq_of_optionalField (h : Returns levels check toValue) {es : Entries} {k : String}
    {absent a b : α} (hfind : Finds es k (toValue a))
    (hcheck : optionalField es k absent check = .valid b) : b = a := by
  obtain ⟨w, hw, hkeyed, hsame⟩ := hfind
  rw [optionalField, hw] at hcheck
  exact h.eq_of_same hkeyed hsame (valid_of_under hcheck)

/-- A record is checked back if its fields are. -/
theorem returns_record {name : String} {read : Entries → Checked α} {fields : α → Entries}
    (hread : ∀ a, read (fields a) = .valid a) (hstorable : ∀ a, Storable (.map (fields a)))
    (hdepth : ∀ a, entriesDepth (fields a) ≤ levels)
    (heq : ∀ {es a b}, (∀ k v, (.text k, v) ∈ fields a → Finds es k v) → read es = .valid b → b = a) :
    Returns (levels + 1) (record name read) fun a => .map (fields a) where
  check_toValue := hread
  eq_of_same := by
    intro v a b hv hsame hcheck
    cases v with
    | map es =>
      exact heq (fun k w hmem => get?_of_same hv (keyed_of_storable (hstorable a)) hsame hmem) hcheck
    | _ => cases hcheck
  storable := hstorable
  depth_le a := Nat.succ_le_succ (hdepth a)

end Parts

end Schema

end FolderTalk
