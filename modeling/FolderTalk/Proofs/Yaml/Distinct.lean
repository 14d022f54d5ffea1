import FolderTalk.Proofs.Json.Built
import FolderTalk.Proofs.Yaml.Document
import Mathlib.Data.List.Induction

/-!
# Keys of what is read

In the value of a YAML text no mapping has a key twice, at any depth of mappings, whatever keys the
text repeats or merges.

* `Value.Distinct` : values of which no mapping has a key twice;
* `read_distinct` : the value of a text is one.
-/

namespace FolderTalk

/-- No mapping has a key twice, nor has any mapping inside that is the value of a key. -/
inductive Value.Distinct : Value → Prop
  | leaf {v : Value} (h : ∀ es, v ≠ .map es) : Distinct v
  | map {es : Entries} (keys : es.Pairwise fun e e' => e'.1.same e.1 = false)
      (inside : ∀ e ∈ es, Distinct e.2) : Distinct (.map es)

namespace Entries

variable {es : Entries} {k v : Value}

/-- A key is put in place of one that is the same, or behind all others. -/
theorem put_distinct (h : (Value.map es).Distinct) (hv : v.Distinct) :
    (Value.map (es.put k v)).Distinct := by
  generalize hmap : Value.map es = m at h
  cases h with
  | leaf hleaf => exact absurd hmap.symm (hleaf es)
  | map hkeys hinside =>
    obtain rfl := Value.map.inj hmap
    refine .map ?_ fun e he => ?_
    · clear hmap hinside
      induction es with
      | nil => exact List.pairwise_singleton _ _
      | cons e es ih =>
        obtain ⟨hfirst, hrest⟩ := List.pairwise_cons.mp hkeys
        rw [put]
        split
        · exact .cons hfirst hrest
        · next hother =>
          refine .cons (fun d hd => ?_) (ih hrest)
          rcases put_mem hd with hd | ⟨-, hkey | ⟨c, hc, hkey⟩⟩
          · exact hfirst d hd
          · rw [hkey]
            exact Bool.not_eq_true _ ▸ hother
          · rw [hkey]
            exact hfirst c hc
    · rcases put_mem he with he | ⟨hvalue, -⟩
      · exact hinside e he
      · exact hvalue ▸ hv

theorem ofPairs_distinct {pairs : List (Value × Value)} (h : ∀ e ∈ pairs, e.2.Distinct) :
    (Value.map (ofPairs pairs)).Distinct := by
  induction pairs using List.reverseRecOn with
  | nil => exact .map .nil (List.forall_mem_nil _)
  | append_singleton pairs e ih =>
    rw [List.forall_mem_append, List.forall_mem_singleton] at h
    rw [ofPairs, List.foldl_concat]
    exact put_distinct (ih h.1) h.2

end Entries

namespace Yaml

theorem momentValue_ne_map {cs : List Char} {v : Value} (h : momentValue cs = .ok v) :
    ∀ es, v ≠ .map es := by
  rintro es rfl
  unfold momentValue at h
  split at h
  · cases h
  · next p _ =>
    split at h
    · cases hd : date p.year p.month p.day <;> rw [hd] at h <;> cases h
    · dsimp only at h
      have hday : ∀ {hour minute second : Nat} {fraction : List Char}, (do
            let d ← date p.year p.month p.day
            if hour > 23 then invalid "hour must be in 0..23"
            else if minute > 59 then invalid "minute must be in 0..59"
            else if second > 59 then invalid "second must be in 0..59"
            else return .moment ⟨d, hour, minute, second, micros fraction, p.offset⟩) ≠
          (.ok (.map es) : Except ReadError Value) := by
        intro hour minute second fraction h
        cases hd : date p.year p.month p.day with
        | error e => rw [hd] at h; cases h
        | ok d =>
          rw [hd] at h
          change (if hour > 23 then _ else _) = _ at h
          split at h
          · cases h
          · split at h
            · cases h
            · split at h <;> cases h
      split at h
      · split at h
        · cases h
        · exact hday h
      · exact hday h

theorem scalarValue_ne_map {kind : Kind} {cs : List Char} {v : Value}
    (h : scalarValue kind cs = .ok v) : ∀ es, v ≠ .map es := by
  rintro es rfl
  cases kind with
  | bool => cases hb : boolValue cs <;> simp [scalarValue, hb, Except.map] at h
  | int => cases hn : intValue cs <;> simp [scalarValue, hn, Except.map] at h
  | float => cases hx : floatValue cs <;> simp [scalarValue, hx, Except.map] at h
  | moment => exact momentValue_ne_map h es rfl
  | _ => cases h

section Mapped
variable {α β ε : Type} {as : List α} {bs : List β} {b : β}

theorem exists_of_mem_mapM? {f : α → Option β} (h : as.mapM f = some bs) (hb : b ∈ bs) :
    ∃ a ∈ as, f a = some b := by
  induction as generalizing bs with
  | nil =>
    obtain rfl := Option.some.inj h
    cases hb
  | cons a as ih =>
    rw [List.mapM_cons] at h
    obtain ⟨b', hb', h⟩ := Option.bind_eq_some_iff.mp h
    obtain ⟨bs', hbs', h⟩ := Option.bind_eq_some_iff.mp h
    obtain rfl := Option.some.inj h
    rcases List.mem_cons.mp hb with rfl | hb
    · exact ⟨a, List.mem_cons_self, hb'⟩
    · obtain ⟨a', ha', heq⟩ := ih hbs' hb
      exact ⟨a', List.mem_cons_of_mem _ ha', heq⟩

theorem toOption_mapM (f : α → Except ε β) (as : List α) :
    (as.mapM f).toOption = as.mapM fun a => (f a).toOption := by
  induction as with
  | nil => rfl
  | cons a as ih =>
    rw [List.mapM_cons, List.mapM_cons, ← ih]
    cases f a with
    | error e => rfl
    | ok b => cases as.mapM f <;> rfl

end Mapped

/-! ## What nodes come to -/

/-- No mapping in what a node comes to has a key twice. -/
structure Built.Distinct (b : Built) : Prop where
  value : b.value.Distinct
  entries : ∀ es, b.entries = some es → ∀ e ∈ es, e.2.value.Distinct
  itemEntries : ∀ es, b.itemEntries = some es → ∀ e ∈ es, e.2.value.Distinct

theorem buildScalar_distinct (kind : Kind) (text : List Char) : (buildScalar kind text).Distinct := by
  unfold buildScalar
  split
  · next v hv => exact ⟨.leaf (scalarValue_ne_map hv), by simp, by simp⟩
  · exact ⟨.leaf (by simp), by simp, by simp⟩

theorem buildList_distinct (kind : Kind) {items : List Built} (h : ∀ b ∈ items, b.Distinct) :
    (buildList kind items).Distinct := by
  refine ⟨.leaf (by simp [buildList]), by simp [buildList], fun es hes e he => ?_⟩
  obtain ⟨lists, hlists, rfl⟩ := Option.map_eq_some_iff.mp hes
  obtain ⟨list, hlist, he⟩ := List.mem_flatten.mp he
  obtain ⟨b, hb, hentries⟩ := exists_of_mem_mapM? hlists (List.mem_reverse.mp hlist)
  exact (h b hb).entries list hentries e he

theorem broughtIn_distinct {b : Built} (hb : b.Distinct) {es : List (Piece × Piece)}
    (h : broughtIn b = .ok es) : ∀ e ∈ es, e.2.value.Distinct := by
  unfold broughtIn at h
  split at h
  · next hentries _ => exact Except.ok.inj h ▸ hb.entries _ ‹_›
  · next hitems => exact Except.ok.inj h ▸ hb.itemEntries _ ‹_›
  · cases h

theorem buildMap_distinct (kind : Kind) {entries : List (Kind × Built × Built)}
    (h : ∀ e ∈ entries, e.2.2.Distinct) : (buildMap kind entries).Distinct := by
  let merged := (entries.filter fun e => e.1 == .merge).mapM fun e => broughtIn e.2.2
  let own := (entries.filter fun e => e.1 != .merge).map fun e => (e.2.1.toPiece, e.2.2.toPiece)
  have hmerged : ∀ e ∈ (merged.toOption.getD []).flatten, e.2.value.Distinct := by
    intro e he
    obtain ⟨list, hlist, he⟩ := List.mem_flatten.mp he
    cases hlists : merged.toOption with
    | none =>
      rw [hlists] at hlist
      cases hlist
    | some lists =>
      rw [hlists] at hlist
      rw [toOption_mapM] at hlists
      obtain ⟨d, hd, hbrought⟩ := exists_of_mem_mapM? hlists hlist
      have hok : broughtIn d.2.2 = .ok list := by
        cases hd : broughtIn d.2.2 <;> rw [hd] at hbrought <;> cases hbrought
        rfl
      exact broughtIn_distinct (h d (List.mem_of_mem_filter hd)) hok e he
  have hown : ∀ e ∈ own, e.2.value.Distinct := by
    intro e he
    obtain ⟨d, hd, rfl⟩ := List.mem_map.mp he
    exact (h d (List.mem_of_mem_filter hd)).value
  have hpairs : ∀ e ∈ (merged.toOption.getD []).flatten ++ own, e.2.value.Distinct :=
    List.forall_mem_append.mpr ⟨hmerged, hown⟩
  refine ⟨Entries.ofPairs_distinct fun e he => ?_, fun es hes => ?_, by simp [buildMap]⟩
  · obtain ⟨d, hd, rfl⟩ := List.mem_map.mp he
    exact hpairs d hd
  · exact Option.some.inj hes ▸ hpairs

mutual

theorem build_distinct : ∀ n : Node, (build n).Distinct
  | .scalar kind text => buildScalar_distinct kind text
  | .list kind items => buildList_distinct kind (buildItems_distinct items)
  | .map kind entries => buildMap_distinct kind (buildEntries_distinct entries)

theorem buildItems_distinct : ∀ ns : List Node, ∀ b ∈ buildItems ns, b.Distinct
  | [] => List.forall_mem_nil _
  | n :: ns => List.forall_mem_cons.mpr ⟨build_distinct n, buildItems_distinct ns⟩

theorem buildEntries_distinct : ∀ es : List (Node × Node), ∀ e ∈ buildEntries es, e.2.2.Distinct
  | [] => List.forall_mem_nil _
  | e :: es => List.forall_mem_cons.mpr ⟨buildEntry_distinct e, buildEntries_distinct es⟩

theorem buildEntry_distinct : ∀ e : Node × Node, (buildEntry e).2.2.Distinct
  | (_, value) => build_distinct value

end

/-- **In the value of a text** no mapping has a key twice. -/
theorem read_distinct {s : String} {v : Value} (h : read s = .ok v) : v.Distinct := by
  cases htokens : tokens s with
  | error e =>
    rw [read, htokens] at h
    cases h
  | ok ts =>
    cases hnode : document ts with
    | error e =>
      rw [read, htokens] at h
      change document ts >>= _ = _ at h
      rw [hnode] at h
      cases h
    | ok n? =>
      cases n? with
      | none =>
        rw [read, htokens] at h
        change document ts >>= _ = _ at h
        rw [hnode] at h
        exact Except.ok.inj h ▸ .leaf (by simp)
      | some n =>
        rw [read_of_document htokens hnode] at h
        split at h
        · exact Except.ok.inj h ▸ (build_distinct n).value
        · cases h

end Yaml

end FolderTalk
