import FolderTalk.Value
import Mathlib.Data.List.Basic

/-!
# Values with distinct keys

* `BuiltFrom` : values that are built from given leaves by lists and by mappings whose keys are
  distinct texts;
* `BuiltFrom.induction` : induction over the containers of such a value;
* `ofPairs_eq_self`, `builtFrom_ofPairs` : writing pairs one after another changes nothing when the
  keys are distinct, and makes them distinct when they are texts.
-/

namespace FolderTalk

open Value

mutual

/-- Built from the leaves by lists and by mappings whose keys are distinct texts. -/
def BuiltFrom (leaf : Value → Prop) : Value → Prop
  | .list items => ItemsFrom leaf items
  | .map entries => (entries.map Prod.fst).Nodup ∧ EntriesFrom leaf entries
  | v => leaf v

def ItemsFrom (leaf : Value → Prop) : List Value → Prop
  | [] => True
  | v :: vs => BuiltFrom leaf v ∧ ItemsFrom leaf vs

def EntriesFrom (leaf : Value → Prop) : List (Value × Value) → Prop
  | [] => True
  | e :: es => EntryFrom leaf e ∧ EntriesFrom leaf es

def EntryFrom (leaf : Value → Prop) : Value × Value → Prop
  | (k, v) => (∃ s, k = .text s) ∧ BuiltFrom leaf v

end

section Induction
variable {leaf P : Value → Prop}

mutual

/-- Induction over the containers of a value. -/
theorem BuiltFrom.induction (hleaf : ∀ v, leaf v → P v)
    (hlist : ∀ vs, (∀ v ∈ vs, P v) → P (.list vs))
    (hmap : ∀ es, BuiltFrom leaf (.map es) → (∀ e ∈ es, P e.2) → P (.map es)) :
    ∀ v, BuiltFrom leaf v → P v
  | .list items, h => hlist items (ItemsFrom.induction hleaf hlist hmap items h)
  | .map entries, h => hmap entries h (EntriesFrom.induction hleaf hlist hmap entries h.2)
  | .null, h => hleaf _ h
  | .bool _, h => hleaf _ h
  | .int _, h => hleaf _ h
  | .float _, h => hleaf _ h
  | .text _, h => hleaf _ h
  | .date _, h => hleaf _ h
  | .moment _, h => hleaf _ h

theorem ItemsFrom.induction (hleaf : ∀ v, leaf v → P v)
    (hlist : ∀ vs, (∀ v ∈ vs, P v) → P (.list vs))
    (hmap : ∀ es, BuiltFrom leaf (.map es) → (∀ e ∈ es, P e.2) → P (.map es)) :
    ∀ vs, ItemsFrom leaf vs → ∀ v ∈ vs, P v
  | [], _ => List.forall_mem_nil _
  | v :: vs, h => List.forall_mem_cons.mpr
    ⟨BuiltFrom.induction hleaf hlist hmap v h.1, ItemsFrom.induction hleaf hlist hmap vs h.2⟩

theorem EntriesFrom.induction (hleaf : ∀ v, leaf v → P v)
    (hlist : ∀ vs, (∀ v ∈ vs, P v) → P (.list vs))
    (hmap : ∀ es, BuiltFrom leaf (.map es) → (∀ e ∈ es, P e.2) → P (.map es)) :
    ∀ es, EntriesFrom leaf es → ∀ e ∈ es, P e.2
  | [], _ => List.forall_mem_nil _
  | (_, v) :: es, h => List.forall_mem_cons.mpr
    ⟨BuiltFrom.induction hleaf hlist hmap v h.1.2, EntriesFrom.induction hleaf hlist hmap es h.2⟩

end

end Induction

section Entries
variable {leaf : Value → Prop} {es : Entries}

theorem itemsFrom_iff {vs : List Value} : ItemsFrom leaf vs ↔ ∀ v ∈ vs, BuiltFrom leaf v := by
  induction vs with
  | nil => simp [ItemsFrom]
  | cons v vs ih => rw [ItemsFrom, ih, List.forall_mem_cons]

theorem entriesFrom_iff :
    EntriesFrom leaf es ↔ ∀ e ∈ es, (∃ s, e.1 = .text s) ∧ BuiltFrom leaf e.2 := by
  induction es with
  | nil => simp [EntriesFrom]
  | cons e es ih =>
    obtain ⟨k, v⟩ := e
    rw [EntriesFrom, ih, List.forall_mem_cons, EntryFrom]

@[simp] theorem same_text (s t : String) : (Value.text s).same (.text t) = (s == t) := by
  simp [Value.same]

/-- What is built from some leaves is built from any others that these are built from. -/
theorem BuiltFrom.mono {leaf' : Value → Prop} (hleaf : ∀ v, leaf v → BuiltFrom leaf' v) {v : Value}
    (h : BuiltFrom leaf v) : BuiltFrom leaf' v := by
  refine BuiltFrom.induction hleaf (fun vs hvs => itemsFrom_iff.mpr hvs) ?_ v h
  intro es hes hvalues
  exact ⟨hes.1, entriesFrom_iff.mpr fun e he =>
    ⟨(entriesFrom_iff.mp hes.2 e he).1, hvalues e he⟩⟩

/-! ## Putting entries -/

/-- A new key is put at the end. -/
theorem put_of_not_mem {s : String} {v : Value} (htext : ∀ e ∈ es, ∃ t, e.1 = .text t)
    (h : .text s ∉ es.map Prod.fst) : es.put (.text s) v = es ++ [(.text s, v)] := by
  induction es with
  | nil => rfl
  | cons e es ih =>
    obtain ⟨⟨t, ht⟩, htext⟩ := List.forall_mem_cons.mp htext
    rw [List.map_cons, List.mem_cons, not_or] at h
    have hother : (Value.text s).same e.1 = false := by
      rw [ht, same_text, beq_eq_false_iff_ne]
      rintro rfl
      exact h.1 ht.symm
    rw [Entries.put, hother, ih htext h.2]
    rfl

/-- A key that is there keeps its place. -/
theorem map_fst_put_of_mem {s : String} {v : Value} (htext : ∀ e ∈ es, ∃ t, e.1 = .text t)
    (h : .text s ∈ es.map Prod.fst) : (es.put (.text s) v).map Prod.fst = es.map Prod.fst := by
  induction es with
  | nil => cases h
  | cons e es ih =>
    obtain ⟨⟨t, ht⟩, htext⟩ := List.forall_mem_cons.mp htext
    rw [Entries.put]
    split
    · rfl
    · next hother =>
      rw [List.map_cons, List.mem_cons] at h
      rw [List.map_cons, List.map_cons, ih htext]
      rcases h with h | h
      · rw [← h, same_text, beq_self_eq_true] at hother
        exact absurd rfl hother
      · exact h

theorem put_mem {k v : Value} {e : Value × Value} (h : e ∈ es.put k v) :
    e ∈ es ∨ e.2 = v ∧ (e.1 = k ∨ ∃ d ∈ es, e.1 = d.1) := by
  induction es with
  | nil => exact .inr ⟨by rw [List.mem_singleton.mp h], .inl (by rw [List.mem_singleton.mp h])⟩
  | cons d es ih =>
    rw [Entries.put] at h
    split at h
    · rcases List.mem_cons.mp h with rfl | h
      · exact .inr ⟨rfl, .inr ⟨d, by simp, rfl⟩⟩
      · exact .inl (List.mem_cons_of_mem _ h)
    · rcases List.mem_cons.mp h with rfl | h
      · exact .inl (by simp)
      · rcases ih h with h | ⟨hv, hk | ⟨c, hc, heq⟩⟩
        · exact .inl (List.mem_cons_of_mem _ h)
        · exact .inr ⟨hv, .inl hk⟩
        · exact .inr ⟨hv, .inr ⟨c, List.mem_cons_of_mem _ hc, heq⟩⟩

theorem builtFrom_put {s : String} {v : Value} (hes : BuiltFrom leaf (.map es))
    (hv : BuiltFrom leaf v) : BuiltFrom leaf (.map (es.put (.text s) v)) := by
  obtain ⟨hnodup, hentries⟩ := hes
  rw [entriesFrom_iff] at hentries
  have htext : ∀ e ∈ es, ∃ t, e.1 = .text t := fun e he => (hentries e he).1
  refine ⟨?_, entriesFrom_iff.mpr fun e he => ?_⟩
  · by_cases hmem : Value.text s ∈ es.map Prod.fst
    · rw [map_fst_put_of_mem htext hmem]
      exact hnodup
    · rw [put_of_not_mem htext hmem, List.map_append, List.nodup_append]
      refine ⟨hnodup, by simp, ?_⟩
      rintro a ha b hb rfl
      rw [List.map_singleton, List.mem_singleton] at hb
      rw [hb] at ha
      exact hmem ha
  · rcases put_mem he with he | ⟨heq, hk⟩
    · exact hentries e he
    · refine ⟨?_, heq ▸ hv⟩
      rcases hk with hk | ⟨d, hd, hk⟩
      · exact ⟨s, hk⟩
      · exact hk ▸ htext d hd

/-- Pairs with text keys make a mapping with distinct keys. -/
theorem builtFrom_ofPairs (h : EntriesFrom leaf es) : BuiltFrom leaf (.map (Entries.ofPairs es)) := by
  have hfold : ∀ (rest done : Entries), EntriesFrom leaf rest → BuiltFrom leaf (.map done) →
      BuiltFrom leaf (.map (rest.foldl (fun (acc : Entries) e => acc.put e.1 e.2) done)) := by
    intro rest
    induction rest with
    | nil => exact fun done _ hdone => hdone
    | cons e rest ih =>
      intro done hrest hdone
      obtain ⟨k, v⟩ := e
      obtain ⟨⟨⟨s, rfl⟩, hv⟩, hrest⟩ := hrest
      exact ih _ hrest (builtFrom_put hdone hv)
  exact hfold es [] h ⟨by simp, trivial⟩

/-- Pairs with distinct text keys are a mapping as they are. -/
theorem ofPairs_eq_self (h : BuiltFrom leaf (.map es)) : Entries.ofPairs es = es := by
  have hfold : ∀ (rest done : Entries), BuiltFrom leaf (.map (done ++ rest)) →
      rest.foldl (fun (acc : Entries) e => acc.put e.1 e.2) done = done ++ rest := by
    intro rest
    induction rest with
    | nil => intro done _; rw [List.append_nil]; rfl
    | cons e rest ih =>
      rintro done ⟨hnodup, hentries⟩
      have hall := entriesFrom_iff.mp hentries
      obtain ⟨⟨s, hs⟩, _⟩ := hall e (by simp)
      have hput : done.put e.1 e.2 = done ++ [e] := by
        obtain ⟨k, v⟩ := e
        obtain rfl : k = .text s := hs
        apply put_of_not_mem fun d hd => (hall d (List.mem_append_left _ hd)).1
        intro hmem
        rw [List.map_append, List.nodup_append] at hnodup
        exact hnodup.2.2 _ hmem _ (by simp) rfl
      rw [List.foldl_cons, hput, ih (done ++ [e]) (by simpa using ⟨hnodup, hentries⟩)]
      simp
  exact hfold es [] h

end Entries

end FolderTalk
