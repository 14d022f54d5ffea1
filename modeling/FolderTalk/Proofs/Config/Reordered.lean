import FolderTalk.Proofs.Config.Contents
import FolderTalk.Proofs.Json.Built

/-!
# Mappings in another order

Mappings are equal if they differ in the order of entries at most, at any depth. For mappings whose
keys are distinct texts this is so just when the same stands at every path.

* `Entries.Reordered`, `Entries.Tidy` : mappings that differ in the order of entries, and mappings
  whose keys are distinct texts;
* `reordered_of_layout_eq`, `Reordered.layout_eq` : mappings differ in order only exactly if they have
  the same at every path;
* `overlay_tidy` : what a layer makes of a tidy mapping is tidy.
-/

namespace FolderTalk

namespace Entries

/-- Two mappings differ in the order of their entries, or of those of mappings inside. -/
inductive Reordered : Entries → Entries → Prop
  | perm {es es' : Entries} (h : es.Perm es') : Reordered es es'
  | within {inner inner' : Entries} (before after : Entries) (key : Value)
      (h : Reordered inner inner') :
      Reordered (before ++ (key, .map inner) :: after) (before ++ (key, .map inner') :: after)
  | trans {es es' es'' : Entries} (h : Reordered es es') (h' : Reordered es' es'') :
      Reordered es es''

/-- The keys are distinct texts, also in the mappings inside. -/
inductive Tidy : Entries → Prop
  | of {es : Entries} (texts : ∀ e ∈ es, ∃ key, e.1 = .text key) (distinct : (es.map Prod.fst).Nodup)
      (inside : ∀ e ∈ es, ∀ inner, e.2 = .map inner → Tidy inner) : Tidy es

variable {es es' : Entries} {key : String} {v : Value}

/-! ## From the layout -/

theorem Reordered.cons (e : Value × Value) (h : Reordered es es') :
    Reordered (e :: es) (e :: es') := by
  induction h with
  | perm h => exact .perm (h.cons e)
  | within before after key h _ => exact .within (e :: before) after key h
  | trans _ _ ih ih' => exact ih.trans ih'

@[simp] theorem get?_cons_text (key : String) (v : Value) (es : Entries) (other : String) :
    get? ((.text key, v) :: es) other = if other = key then some v else es.get? other := by
  unfold get? find?
  rw [List.find?_cons, same_text]
  by_cases h : other = key
  · simp [h]
  · simp [h, beq_eq_false_iff_ne.mpr h]

theorem get?_eq_some_iff (htexts : ∀ e ∈ es, ∃ key, e.1 = .text key)
    (hdistinct : (es.map Prod.fst).Nodup) : es.get? key = some v ↔ (.text key, v) ∈ es := by
  induction es with
  | nil => simp [get?, find?]
  | cons e es ih =>
    obtain ⟨_, w⟩ := e
    obtain ⟨⟨k, rfl⟩, hrest⟩ := List.forall_mem_cons.mp htexts
    obtain ⟨hfresh, hnodup⟩ := List.nodup_cons.mp hdistinct
    rw [get?_cons_text, List.mem_cons]
    by_cases hkey : key = k
    · subst hkey
      have hnot : (Value.text key, v) ∉ es := fun hmem =>
        hfresh (List.mem_map.mpr ⟨_, hmem, rfl⟩)
      simp [hnot, eq_comm]
    · rw [if_neg hkey, ih hrest hnodup]
      simp [hkey]

namespace Tidy

theorem get?_eq_some_iff (h : Tidy es) : es.get? key = some v ↔ (.text key, v) ∈ es := by
  obtain ⟨texts, distinct, -⟩ := h
  exact Entries.get?_eq_some_iff texts distinct

theorem tail {e : Value × Value} (h : Tidy (e :: es)) : Tidy es := by
  obtain ⟨texts, distinct, inside⟩ := h
  exact .of (List.forall_mem_cons.mp texts).2 (List.nodup_cons.mp distinct).2 fun e he =>
    inside e (List.mem_cons_of_mem _ he)

theorem behind {before : Entries} (h : Tidy (before ++ es)) : Tidy es := by
  induction before with
  | nil => exact h
  | cons e before ih => exact ih h.tail

/-- The key of the first entry does not come again. -/
theorem fresh {e d : Value × Value} (h : Tidy (e :: es)) (hd : d ∈ es) : d.1 ≠ e.1 := by
  obtain ⟨-, distinct, -⟩ := h
  intro hkey
  exact (List.nodup_cons.mp distinct).1 (List.mem_map.mpr ⟨d, hd, hkey⟩)

theorem perm (h : Tidy es) (hperm : es.Perm es') : Tidy es' := by
  obtain ⟨texts, distinct, inside⟩ := h
  exact .of (fun e he => texts e (hperm.mem_iff.mpr he)) ((hperm.map Prod.fst).nodup_iff.mp distinct)
    fun e he => inside e (hperm.mem_iff.mpr he)

theorem layout_perm (h : Tidy es) (hperm : es.Perm es') : es.layout = es'.layout := by
  have hget : ∀ key, es.get? key = es'.get? key := fun key => Option.ext fun v => by
    rw [h.get?_eq_some_iff, (h.perm hperm).get?_eq_some_iff, hperm.mem_iff]
  funext path
  cases path with
  | nil => rfl
  | cons key keys => rw [layout_cons, layout_cons, hget]

/-- Behind the first entry stands what stands elsewhere, and nothing at its key. -/
theorem layout_tail (h : Tidy ((.text key, v) :: es)) (k : String) (keys : List String) :
    es.layout (k :: keys) = if k = key then none else layout ((.text key, v) :: es) (k :: keys) := by
  rw [layout_cons, layout_cons, get?_cons_text]
  by_cases hk : k = key
  · subst hk
    have hfresh : es.get? k = none := by
      by_contra hsome
      obtain ⟨w, hw⟩ := Option.ne_none_iff_exists'.mp hsome
      exact h.fresh (h.tail.get?_eq_some_iff.mp hw) rfl
    simp [hfresh]
  · simp [hk]

theorem mapping {inner : Entries} (h : Tidy ((.text key, .map inner) :: es)) : Tidy inner := by
  obtain ⟨-, -, hinside⟩ := h
  exact hinside _ List.mem_cons_self inner rfl

end Tidy

/-- **Tidy mappings with the same at every path** differ in the order of entries only. -/
theorem reordered_of_layout_eq : ∀ {es es' : Entries}, Tidy es → Tidy es' →
    es.layout = es'.layout → Reordered es es'
  | [], [], _, _, _ => .perm .nil
  | [], (key, v) :: es', _, htidy', h => by
    obtain ⟨htexts, -, -⟩ := htidy'
    obtain ⟨⟨k, rfl⟩, -⟩ := List.forall_mem_cons.mp htexts
    have hk := congrFun h [k]
    rw [layout_cons, layout_cons, get?_cons_text, if_pos rfl] at hk
    cases hk
  | (key, v) :: es, es', htidy, htidy', h => by
    obtain ⟨k, rfl⟩ : ∃ k, key = .text k := by
      obtain ⟨htexts, -, -⟩ := htidy
      exact (List.forall_mem_cons.mp htexts).1
    -- The entry of the same key in the other mapping, brought to its beginning.
    obtain ⟨v', hv'⟩ : ∃ v', es'.get? k = some v' := by
      have hk := congrFun h [k]
      rw [layout_cons, layout_cons, get?_cons_text, if_pos rfl] at hk
      cases hget : es'.get? k with
      | none => rw [hget] at hk; cases hk
      | some v' => exact ⟨v', rfl⟩
    obtain ⟨before, after, rfl⟩ := List.append_of_mem (htidy'.get?_eq_some_iff.mp hv')
    have hperm : (before ++ (.text k, v') :: after).Perm ((.text k, v') :: (before ++ after)) :=
      List.perm_middle
    have htidy'' := htidy'.perm hperm
    rw [htidy'.layout_perm hperm] at h
    have hrest : Reordered es (before ++ after) := by
      refine reordered_of_layout_eq htidy.tail htidy''.tail (funext fun path => ?_)
      cases path with
      | nil => rfl
      | cons k' keys => rw [htidy.layout_tail, htidy''.layout_tail, h]
    have hvalue : ∀ keys, v.at? keys = v'.at? keys := by
      intro keys
      have hkeys := congrFun h (k :: keys)
      rwa [layout_cons, layout_cons, get?_cons_text, get?_cons_text, if_pos rfl, if_pos rfl,
        Option.bind_some, Option.bind_some] at hkeys
    have hentry : Reordered ((.text k, v) :: es) ((.text k, v') :: es) := by
      have hspot : v.spot = v'.spot := Option.some.inj (hvalue [])
      cases v with
      | map inner =>
        cases v' with
        | map inner' =>
          exact .within [] es (.text k)
            (reordered_of_layout_eq htidy.mapping htidy''.mapping (funext hvalue))
        | _ => cases hspot
      | _ =>
        obtain ⟨rfl, -⟩ := Value.spot_eq_leaf_iff.mp hspot.symm
        exact .perm (.refl _)
    exact (hentry.trans (hrest.cons _)).trans (.perm hperm.symm)

/-- What differs in the order of entries only has the same at every path. -/
theorem Reordered.layout_eq (h : Reordered es es') : Tidy es → Tidy es' ∧ es.layout = es'.layout := by
  induction h with
  | perm h => exact fun htidy => ⟨htidy.perm h, htidy.layout_perm h⟩
  | @within inner inner' before after key _ ih =>
    intro htidy
    have hfront := htidy.perm List.perm_middle
    obtain ⟨htexts, hdistinct, hinside⟩ := id hfront
    obtain ⟨⟨k, rfl⟩, -⟩ := List.forall_mem_cons.mp htexts
    obtain ⟨hinner, hlayout⟩ := ih hfront.mapping
    have hfront' : Tidy ((.text k, .map inner') :: (before ++ after)) :=
      .of (List.forall_mem_cons.mpr ⟨⟨k, rfl⟩, (List.forall_mem_cons.mp htexts).2⟩) hdistinct
        (List.forall_mem_cons.mpr ⟨fun other hother => Value.map.inj hother ▸ hinner,
          (List.forall_mem_cons.mp hinside).2⟩)
    refine ⟨hfront'.perm List.perm_middle.symm, ?_⟩
    rw [htidy.layout_perm List.perm_middle, ← hfront'.layout_perm List.perm_middle.symm]
    funext path
    cases path with
    | nil => rfl
    | cons k' keys =>
      rw [layout_cons, layout_cons, get?_cons_text, get?_cons_text]
      split
      · exact congrFun hlayout keys
      · rfl
  | trans _ _ ih ih' =>
    intro htidy
    obtain ⟨htidy', heq⟩ := ih htidy
    obtain ⟨htidy'', heq'⟩ := ih' htidy'
    exact ⟨htidy'', heq.trans heq'⟩

/-! ## What a layer makes of a tidy mapping -/

theorem tidy_nil : Tidy [] := .of (List.forall_mem_nil _) List.nodup_nil (List.forall_mem_nil _)

theorem Tidy.set (h : Tidy es) (hv : ∀ inner, v = .map inner → Tidy inner) : Tidy (es.set key v) := by
  obtain ⟨htexts, hdistinct, hinside⟩ := h
  refine .of (fun e he => ?_) ?_ fun e he inner hinner => ?_
  · rcases put_mem he with he | ⟨-, hkey | ⟨d, hd, hkey⟩⟩
    · exact htexts e he
    · exact ⟨key, hkey⟩
    · exact hkey ▸ htexts d hd
  · by_cases hmem : Value.text key ∈ es.map Prod.fst
    · rw [Entries.set, map_fst_put_of_mem htexts hmem]
      exact hdistinct
    · rw [Entries.set, put_of_not_mem htexts hmem, List.map_append]
      refine List.nodup_append.mpr ⟨hdistinct, List.nodup_singleton _, ?_⟩
      rintro k hk k' hk' rfl
      rw [List.mem_singleton.mp hk'] at hk
      exact hmem hk
  · rcases put_mem he with he | ⟨hvalue, -⟩
    · exact hinside e he inner hinner
    · exact hv inner (hvalue ▸ hinner)

/-- A key that is not there is added behind the others. -/
theorem Tidy.set_of_get?_none (h : Tidy es) (hnone : es.get? key = none) (v : Value) :
    es.set key v = es ++ [(.text key, v)] := by
  have hmem : Value.text key ∉ es.map Prod.fst := by
    intro hmem
    obtain ⟨⟨_, w⟩, he, rfl⟩ := List.mem_map.mp hmem
    rw [h.get?_eq_some_iff.mpr he] at hnone
    cases hnone
  obtain ⟨htexts, -, -⟩ := h
  exact put_of_not_mem htexts hmem

/-- A key that is there keeps its place. -/
theorem Tidy.set_append_cons {before after : Entries} {w : Value}
    (h : Tidy (before ++ (.text key, w) :: after)) (v : Value) :
    Entries.set (before ++ (.text key, w) :: after) key v = before ++ (.text key, v) :: after := by
  unfold Entries.set
  induction before with
  | nil =>
    rw [List.nil_append, put, same_text, beq_self_eq_true]
    rfl
  | cons e before ih =>
    have hother : (Value.text key).same e.1 = false := by
      have hlater : (Value.text key, w) ∈ before ++ (.text key, w) :: after := by simp
      rw [← Bool.not_eq_true, Value.same_text_iff]
      exact (h.fresh hlater).symm
    rw [List.cons_append, put, hother, ih h.tail]
    rfl

theorem Tidy.mappingAt? {inner : Entries} (h : Tidy es) (hinner : es.mappingAt? key = some inner) :
    Tidy inner := by
  unfold Entries.mappingAt? at hinner
  split at hinner
  · obtain rfl := Option.some.inj hinner
    exact tidy_nil
  · next hget =>
    obtain rfl := Option.some.inj hinner
    have hmem := h.get?_eq_some_iff.mp hget
    obtain ⟨-, -, hinside⟩ := h
    exact hinside _ hmem _ rfl
  · cases hinner

end Entries

namespace Config

open Entries

theorem changeAt_tidy {ε : Type} {refused : String → ε} {change : Entries → Except ε Entries}
    (h : ∀ es result : Entries, es.Tidy → change es = .ok result → result.Tidy) (keys : List String) :
    ∀ es result : Entries, es.Tidy → changeAt refused change keys es = .ok result → result.Tidy := by
  induction keys with
  | nil => exact h
  | cons key keys ih =>
    intro es result hes hresult
    rw [changeAt] at hresult
    cases hinner : es.mappingAt? key with
    | none =>
      rw [hinner] at hresult
      cases hresult
    | some inner =>
      simp only [hinner] at hresult
      cases hchanged : changeAt refused change keys inner with
      | error e =>
        rw [hchanged] at hresult
        cases hresult
      | ok changed =>
        rw [hchanged] at hresult
        rw [← Except.ok.inj hresult]
        refine hes.set fun inner' hinner' => ?_
        rw [← Value.map.inj hinner']
        exact ih inner changed (hes.mappingAt? hinner) hchanged

mutual

/-- **What a layer makes of a tidy mapping** is tidy, whatever the keys of the layer are. -/
theorem overlay_tidy (layer : Layer) : ∀ (es target result : Entries), target.Tidy →
    overlay layer target es = .ok result → result.Tidy
  | [], target, result, htarget, h => by
    rw [overlay] at h
    exact Except.ok.inj h ▸ htarget
  | e :: es, target, result, htarget, h => by
    obtain ⟨next, hnext, hrest⟩ := overlay_cons_ok h
    have hentry := overlayEntry_tidy layer e target next htarget hnext
    exact overlay_tidy layer es next result hentry hrest

theorem overlayEntry_tidy (layer : Layer) : ∀ (e : Value × Value) (target result : Entries),
    target.Tidy → overlayEntry layer target e = .ok result → result.Tidy
  | (key, v), target, result, htarget, h => by
    cases key with
    | text key =>
      have hlanded : ∀ node x : _, node.Tidy → landed layer node v = .ok x →
          ∀ inner, x = .map inner → Tidy inner := by
        intro node x hnode hx inner hinner
        subst hinner
        cases v with
        | map es =>
          rw [landed] at hx
          cases hover : overlay layer node es with
          | error e => rw [hover] at hx; cases hx
          | ok es' =>
            rw [hover] at hx
            rw [← Value.map.inj (Except.ok.inj hx)]
            exact overlay_tidy layer es node es' hnode hover
        | _ => cases hx
      rw [overlayEntry_eq] at h
      refine changeAt_tidy (fun node result hnode hresult => ?_) _ target result htarget h
      have hinner : ((node.mappingAt? (splitKey key).2).getD []).Tidy := by
        cases hat : node.mappingAt? (splitKey key).2 with
        | none => exact tidy_nil
        | some inner => exact hnode.mappingAt? hat
      cases hx : landed layer ((node.mappingAt? (splitKey key).2).getD []) v with
      | error e => rw [hx] at hresult; cases hresult
      | ok x =>
        rw [hx] at hresult
        rw [← Except.ok.inj hresult]
        exact hnode.set (hlanded _ x hinner hx)
    | _ => simp [overlayEntry] at h

end

end Config

end FolderTalk
