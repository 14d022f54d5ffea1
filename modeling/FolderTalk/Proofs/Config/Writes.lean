import FolderTalk.Proofs.Config.Contents

/-!
# Writes

What a layer does, entry by entry, is a row of writes: each puts a mapping or another value at the
end of a path. A write is refused if a value that is no mapping stands on the way; it takes the
place of what stands at its end.

* `Write`, `Layout.write?`, `Layout.writeAll?` : writes and what they do;
* `writes?` : the writes of the entries of a layer;
* `overlay_layout` : a layer does what its writes do.
-/

namespace FolderTalk

/-- Something that is put at the end of a path. -/
structure Write where
  path : List String
  spot : Spot
  path_ne : path ≠ []

namespace Write

variable (w : Write) (l : Layout)

/-- The write below some keys. -/
def under (keys : List String) : Write where
  path := keys ++ w.path
  spot := w.spot
  path_ne := List.append_ne_nil_of_right_ne_nil keys w.path_ne

/-- What a write puts at a path: mappings on its way and its own spot at its end. -/
def at? (path : List String) : Option Spot :=
  if path = w.path then some w.spot else if path <+: w.path then some .mapping else none

/-- Whether a write leaves nothing at a path but what it puts there itself. -/
def clears (path : List String) : Bool := w.spot.isLeaf && w.path.isPrefixOf path

/-- What stands at each path after a write. -/
def onto : Layout := fun path => (w.at? path).or (if w.clears path then none else l path)

theorem at?_eq_some {path : List String} {s : Spot} (h : w.at? path = some s) :
    path = w.path ∧ s = w.spot ∨ path ≠ w.path ∧ path <+: w.path ∧ s = .mapping := by
  unfold at? at h
  split at h
  · next heq => exact .inl ⟨heq, (Option.some.inj h).symm⟩
  · next hne =>
    split at h
    · next hinitial => exact .inr ⟨hne, hinitial, (Option.some.inj h).symm⟩
    · cases h

theorem prefix_of_at? {path : List String} {s : Spot} (h : w.at? path = some s) :
    path <+: w.path := by
  rcases w.at?_eq_some h with ⟨rfl, -⟩ | ⟨-, hinitial, -⟩
  · exact List.prefix_refl _
  · exact hinitial

theorem onto_path : w.onto l w.path = some w.spot := by
  rw [onto, at?, if_pos rfl]
  rfl

end Write

namespace Layout

/-- A write, unless it is refused. -/
def write? (l : Layout) (w : Write) : Option Layout :=
  if l.leads w.path then some (w.onto l) else none

/-- Writes one after another. -/
def writeAll? (l : Layout) : List Write → Option Layout
  | [] => some l
  | w :: ws => (l.write? w).bind (writeAll? · ws)

end Layout

/-! ## Writes below a key -/

section Below
variable {l : Layout} {key : String} {keys path : List String}

theorem Write.at?_nil (w : Write) : w.at? [] = some .mapping := by
  rw [at?, if_neg w.path_ne.symm, if_pos List.nil_prefix]

theorem Write.onto_nil (w : Write) (l : Layout) : w.onto l [] = some .mapping := by
  rw [onto, at?_nil]
  rfl

theorem Write.at?_under_cons (w : Write) (key k : String) (keys : List String) :
    (w.under [key]).at? (k :: keys) = if k = key then w.at? keys else none := by
  unfold at? under
  by_cases hk : k = key
  · simp [hk, List.cons_prefix_cons]
  · simp [hk, List.cons_prefix_cons]

theorem Write.clears_under_cons (w : Write) (key k : String) (keys : List String) :
    (w.under [key]).clears (k :: keys) = (k == key && w.clears keys) := by
  show (w.spot.isLeaf && List.isPrefixOf (key :: w.path) (k :: keys)) = _
  rw [List.isPrefixOf_cons_cons, BEq.comm, Bool.and_left_comm]
  rfl

theorem Write.onto_under (w : Write) (l : Layout) (key : String) :
    (w.under [key]).onto l = l.graft key (w.onto (l.below key)) := by
  funext path
  cases path with
  | nil => exact (w.under [key]).onto_nil l
  | cons k keys =>
    rw [Layout.graft_cons, onto, onto, at?_under_cons, clears_under_cons]
    by_cases hk : k = key
    · subst hk
      cases keys with
      | nil => simp [at?_nil]
      | cons k' keys => simp [Layout.below_cons]
    · simp [hk]

theorem Layout.leads_cons (hl : l [] = some .mapping) (hkeys : keys ≠ []) :
    l.leads (key :: keys) = (!l.isLeafAt [key] && (l.below key).leads keys) := by
  rw [Bool.eq_iff_iff, Bool.and_eq_true, Bool.not_eq_true', leads_iff, leads_iff]
  constructor
  · intro h
    refine ⟨?_, fun before v hbefore hv => ?_⟩
    · by_contra hleaf
      obtain ⟨v, hv⟩ := isLeafAt_eq_true.mp (Bool.not_eq_false _ ▸ hleaf)
      have := h [key] v (List.cons_prefix_cons.mpr ⟨rfl, List.nil_prefix⟩) hv
      exact hkeys (List.cons.inj this).2.symm
    · cases before with
      | nil => cases hv
      | cons k before =>
        exact (List.cons.inj (h (key :: k :: before) v
          (List.cons_prefix_cons.mpr ⟨rfl, hbefore⟩) hv)).2
  · rintro ⟨hkey, h⟩ before v hbefore hv
    cases before with
    | nil => rw [hl] at hv; cases hv
    | cons k before =>
      obtain ⟨rfl, hrest⟩ := List.cons_prefix_cons.mp hbefore
      cases before with
      | nil =>
        exfalso
        have hleaf := isLeafAt_eq_true.mpr ⟨v, hv⟩
        rw [hkey] at hleaf
        cases hleaf
      | cons k' before => rw [h (k' :: before) v hrest hv]

theorem Layout.leads_singleton (hl : l [] = some .mapping) (key : String) : l.leads [key] = true := by
  rw [leads_iff]
  intro before w hbefore hw
  rcases List.prefix_cons_iff.mp hbefore with rfl | ⟨rest, rfl, hrest⟩
  · rw [hl] at hw
    cases hw
  · rw [List.prefix_nil.mp hrest]

theorem Layout.write?_under (hl : l [] = some .mapping) (key : String) (w : Write) :
    l.write? (w.under [key]) =
      if l.isLeafAt [key] then none else ((l.below key).write? w).map (l.graft key) := by
  unfold write?
  rw [Write.onto_under w l, show (w.under [key]).path = key :: w.path from rfl,
    leads_cons hl w.path_ne]
  cases l.isLeafAt [key] with
  | true => rfl
  | false => cases (l.below key).leads w.path <;> rfl

theorem Layout.write?_nil {l' : Layout} {w : Write} (h : l.write? w = some l') :
    l' [] = some .mapping := by
  unfold write? at h
  split at h
  · rw [← Option.some.inj h]
    exact w.onto_nil l
  · cases h

/-- Writes below a key that has a mapping are writes in that mapping. -/
theorem Layout.writeAll?_graft {inner : Layout} (h : inner [] = some .mapping) (l : Layout)
    (key : String) (ws : List Write) :
    (l.graft key inner).writeAll? (ws.map (·.under [key])) =
      (inner.writeAll? ws).map (l.graft key) := by
  induction ws generalizing inner with
  | nil => rfl
  | cons w ws ih =>
    have hkey : (l.graft key inner).isLeafAt [key] = false := by
      rw [isLeafAt, graft_key, h]
      rfl
    rw [List.map_cons, writeAll?, writeAll?, write?_under rfl, hkey, below_graft h]
    cases hw : inner.write? w with
    | none => rfl
    | some inner' =>
      simp only [Bool.false_eq_true, if_false, Option.map_some, Option.bind_some, graft_graft]
      exact ih (write?_nil hw)

/-- The same for a key with a mapping or nothing; below another value writes are refused. -/
theorem Layout.writeAll?_below (hl : l [] = some .mapping) (key : String) {ws : List Write}
    (hws : ws ≠ []) :
    l.writeAll? (ws.map (·.under [key])) =
      if l.isLeafAt [key] then none else ((l.below key).writeAll? ws).map (l.graft key) := by
  obtain ⟨w, ws, rfl⟩ := List.exists_cons_of_ne_nil hws
  rw [List.map_cons, writeAll?, writeAll?, write?_under hl]
  cases l.isLeafAt [key] with
  | true => rfl
  | false =>
    cases hw : (l.below key).write? w with
    | none => rfl
    | some inner => exact writeAll?_graft (write?_nil hw) l key ws

end Below

theorem Layout.writeAll?_append (l : Layout) (ws ws' : List Write) :
    l.writeAll? (ws ++ ws') = (l.writeAll? ws).bind (·.writeAll? ws') := by
  induction ws generalizing l with
  | nil => rfl
  | cons w ws ih =>
    rw [List.cons_append, writeAll?, writeAll?]
    cases l.write? w with
    | none => rfl
    | some l' => exact ih l'

namespace Config

/-! ## The writes of a layer -/

mutual

/-- What the entries of a layer write, one after another; `none` if some key is no text. -/
def writes? : List (Value × Value) → Option (List Write)
  | [] => some []
  | e :: es => (entryWrites? e).bind fun ws => (writes? es).map (ws ++ ·)

/-- What one entry writes: what its value is, and what is inside, below the path of the key. -/
def entryWrites? : Value × Value → Option (List Write)
  | (.text key, v) => (innerWrites? v).map fun ws =>
    ⟨keyPath key, v.spot, keyPath_ne_nil key⟩ :: ws.map (·.under (keyPath key))
  | _ => none

/-- What is written inside a value. -/
def innerWrites? : Value → Option (List Write)
  | .map inner => writes? inner
  | _ => some []

end

section Simulation
variable {ε : Type} {refused : String → ε} {change : Entries → Except ε Entries}

theorem Write.under_append (w : Write) (keys keys' : List String) :
    (w.under keys').under keys = w.under (keys ++ keys') := by
  simp [Write.under, List.append_assoc]

/-- A change at the end of a path that comes to some writes comes to these writes below the path. -/
theorem changeAt_layout {ws? : Option (List Write)} (hne : ws? ≠ some [])
    (h : ∀ node, (change node).toOption.map Entries.layout = ws?.bind node.layout.writeAll?)
    (keys : List String) (es : Entries) :
    (changeAt refused change keys es).toOption.map Entries.layout =
      ws?.bind fun ws => es.layout.writeAll? (ws.map (·.under keys)) := by
  induction keys generalizing es with
  | nil =>
    rw [changeAt, h es]
    congr 1
    funext ws
    exact congrArg _ (List.map_id ws).symm
  | cons key keys ih =>
    have hstep : ∀ ws, ws? = some ws → es.layout.writeAll? (ws.map (·.under (key :: keys))) =
        if es.layout.isLeafAt [key] then none
        else ((es.layout.below key).writeAll? (ws.map (·.under keys))).map (es.layout.graft key) := by
      intro ws hws
      have hmap : ws.map (·.under (key :: keys)) = (ws.map (·.under keys)).map (·.under [key]) := by
        rw [List.map_map]
        exact List.map_congr_left fun w _ => (Write.under_append w [key] keys).symm
      rw [hmap, Layout.writeAll?_below es.layout_nil]
      intro hnil
      exact hne (by rw [hws, List.map_eq_nil_iff.mp hnil])
    obtain ⟨hmapping, hleaf⟩ := es.layout_mappingAt? key
    rw [changeAt]
    cases hinner : es.mappingAt? key with
    | none =>
      cases hws : ws? with
      | none => rfl
      | some ws => exact ((hstep ws hws).trans (if_pos (hleaf hinner))).symm
    | some inner =>
      obtain ⟨hno, hlayout⟩ := hmapping inner hinner
      have hgraft : Entries.layout ∘ (fun e => es.set key (.map e)) =
          es.layout.graft key ∘ Entries.layout := funext fun e => es.layout_set_map e key
      dsimp only
      rw [toOption_map, Option.map_map, hgraft, ← Option.map_map, ih inner, hlayout]
      cases hws : ws? with
      | none => rfl
      | some ws => exact ((hstep ws hws).trans (by rw [hno]; rfl)).symm

/-- A value that is no mapping is one write. -/
theorem layout_set_leaf {v : Value} (hv : ∀ es, v ≠ .map es) (es : Entries) (key : String) :
    some (es.set key v).layout = es.layout.writeAll? [⟨[key], .leaf v, List.cons_ne_nil _ _⟩] := by
  rw [Layout.writeAll?, Layout.write?, if_pos (Layout.leads_singleton es.layout_nil key),
    Option.bind_some, Layout.writeAll?]
  congr 1
  funext path
  cases path with
  | nil => exact (Write.onto_nil _ _).symm
  | cons k keys =>
    rw [Entries.layout_set, Write.onto]
    by_cases hk : k = key
    · subst hk
      cases keys with
      | nil => simp [Write.at?, Value.at?, Value.spot_of_leaf hv]
      | cons k' keys => simp [Write.at?, Write.clears, Spot.isLeaf, Value.at?_cons_of_leaf hv]
    · simp [Write.at?, Write.clears, List.cons_prefix_cons, hk, Ne.symm hk]

/-- A mapping is a write, and what is written into it are writes below. -/
theorem layout_set_mapping {ws? : Option (List Write)} {written : Entries → Except ε Entries}
    (h : ∀ inner, (written inner).toOption.map Entries.layout = ws?.bind inner.layout.writeAll?)
    (es : Entries) (key : String) :
    (((written ((es.mappingAt? key).getD [])).map .map).map (es.set key)).toOption.map
        Entries.layout =
      ws?.bind fun ws => es.layout.writeAll?
        (⟨[key], .mapping, List.cons_ne_nil _ _⟩ :: ws.map (·.under [key])) := by
  have honto : (Write.mk [key] .mapping (List.cons_ne_nil _ _)).onto es.layout =
      es.layout.graft key ((es.mappingAt? key).getD []).layout := by
    funext path
    cases path with
    | nil => exact Write.onto_nil _ _
    | cons k keys =>
      rw [Layout.graft_cons, Write.onto]
      by_cases hk : k = key
      · subst hk
        cases keys with
        | nil => simp [Write.at?, Entries.layout_nil]
        | cons k' keys =>
          have hinner : ((es.mappingAt? k).getD []).layout (k' :: keys) =
              es.layout (k :: k' :: keys) := by
            obtain ⟨hmapping, hleaf⟩ := es.layout_mappingAt? k
            cases hat : es.mappingAt? k with
            | some inner => exact congrFun (hmapping inner hat).2 (k' :: keys)
            | none =>
              obtain ⟨v, hv⟩ := Layout.isLeafAt_eq_true.mp (hleaf hat)
              have hno : es.layout [k] ≠ some .mapping := by simp [hv]
              exact (Entries.layout_below hno (List.cons_ne_nil k' keys)).symm
          simp [Write.at?, Write.clears, Spot.isLeaf, hinner]
      · simp [Write.at?, Write.clears, Spot.isLeaf, List.cons_prefix_cons, hk]
  have hgraft : (Entries.layout ∘ es.set key) ∘ .map = es.layout.graft key ∘ Entries.layout :=
    funext fun inner => es.layout_set_map inner key
  rw [toOption_map, toOption_map, Option.map_map, Option.map_map, hgraft, ← Option.map_map, h]
  cases ws? with
  | none => rfl
  | some ws =>
    rw [Option.bind_some, Option.bind_some, Layout.writeAll?, Layout.write?,
      if_pos (Layout.leads_singleton es.layout_nil key), Option.bind_some, honto,
      Layout.writeAll?_graft (Entries.layout_nil _)]

/-- What is written into the mapping at the end of a path is written below the path. -/
theorem map_under_splitKey (key : String) (spot : Spot) (ws : List Write) :
    (⟨[(splitKey key).2], spot, List.cons_ne_nil _ _⟩ ::
        ws.map (·.under [(splitKey key).2])).map (·.under (splitKey key).1) =
      ⟨keyPath key, spot, keyPath_ne_nil key⟩ :: ws.map (·.under (keyPath key)) := by
  rw [List.map_cons, List.map_map]
  simp [Write.under, keyPath_eq, Function.comp_def]

mutual

/-- **A layer does what its writes do**, and fails where one of them is refused. -/
theorem overlay_layout (layer : Layer) : ∀ es target : Entries,
    (overlay layer target es).toOption.map Entries.layout =
      (writes? es).bind target.layout.writeAll?
  | [], target => by
    rw [overlay, writes?]
    rfl
  | e :: es, target => by
    have hrest := overlay_layout layer es
    rw [overlay_cons, toOption_bind, Option.map_bind, writes?]
    have hnext : (Option.map Entries.layout ∘ fun next => (overlay layer next es).toOption) =
        fun next => (writes? es).bind next.layout.writeAll? := funext hrest
    rw [hnext]
    cases writes? es with
    | none => simp
    | some ws' =>
      have hmap : ((overlayEntry layer target e).toOption.bind
          fun next => next.layout.writeAll? ws') =
          ((overlayEntry layer target e).toOption.map Entries.layout).bind (·.writeAll? ws') := by
        rw [Option.bind_map]
        rfl
      simp only [Option.bind_some, Option.map_some]
      rw [hmap, overlayEntry_layout layer e target, Option.bind_assoc, Option.bind_assoc]
      congr 1
      funext ws
      rw [Option.bind_some, Layout.writeAll?_append]

theorem overlayEntry_layout (layer : Layer) : ∀ (e : Value × Value) (target : Entries),
    (overlayEntry layer target e).toOption.map Entries.layout =
      (entryWrites? e).bind target.layout.writeAll?
  | (key, v), target => by
    cases key with
    | text key =>
      have hnode : ∀ node : Entries,
          ((landed layer ((node.mappingAt? (splitKey key).2).getD []) v).map
            (node.set (splitKey key).2)).toOption.map Entries.layout =
          ((innerWrites? v).map fun ws => ⟨[(splitKey key).2], v.spot, List.cons_ne_nil _ _⟩ ::
            ws.map (·.under [(splitKey key).2])).bind node.layout.writeAll? := by
        intro node
        cases v with
        | map inner =>
          rw [Option.bind_map]
          exact @layout_set_mapping _ _ (overlay layer · inner) (overlay_layout layer inner) node _
        | _ => exact layout_set_leaf (by simp) node _
      rw [overlayEntry_eq, entryWrites?, changeAt_layout (by cases innerWrites? v <;> simp) hnode,
        Option.bind_map, Option.bind_map]
      congr 1
      funext ws
      exact congrArg _ (map_under_splitKey key v.spot ws)
    | _ => simp [overlayEntry, entryWrites?, Except.toOption]

end

end Simulation

end Config

end FolderTalk
