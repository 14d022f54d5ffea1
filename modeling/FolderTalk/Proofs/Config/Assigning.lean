import FolderTalk.Proofs.Config.Exchange
import FolderTalk.Proofs.Config.Header
import FolderTalk.Proofs.Config.Readings
import FolderTalk.Proofs.Data.Deciding

/-!
# Assigning to a setting

A setting that is assigned goes into the mapping of its section, and what the file says of the other
settings stays. But the file may also have the setting under its dotted key. If that key stands
behind the section, it has the last word: the assignment then goes through and changes nothing.

* `Shadowed` : the dotted key of a setting stands behind its section;
* `assigned_layouts` : what the file makes of the defaults before and after an assignment;
* `assign_exact` : what an assignment changes.
-/

namespace FolderTalk

open Config

/-! ## Paths of settings -/

namespace Config

theorem keyPath_sectionName (sec : Section) : keyPath sec.name = [sec.name] := by
  rw [keyPath_eq, splitKey_sectionName]
  rfl

theorem keyPath_name (s : Setting) : keyPath s.name = [s.name] := by
  rw [keyPath_eq, splitKey_name]
  rfl

theorem keyPath_key (s : Setting) : keyPath s.key = s.path := by
  rw [keyPath_eq, splitKey_key]
  rfl

/-- Only two keys have a path that ends on the way to a setting. -/
theorem key_of_prefix {key : String} {s : Setting} (h : keyPath key <+: s.path) :
    key = s.section.name ∨ key = s.key := by
  obtain ⟨rest, hrest⟩ := h
  rw [Setting.path] at hrest
  cases hkey : keyPath key with
  | nil => exact absurd hkey (keyPath_ne_nil key)
  | cons k keys =>
    rw [hkey, List.cons_append, List.cons.injEq] at hrest
    obtain ⟨rfl, hrest⟩ := hrest
    cases keys with
    | nil => exact .inl (keyPath_injective (hkey.trans (keyPath_sectionName _).symm))
    | cons k' keys =>
      rw [List.cons_append, List.cons.injEq, List.append_eq_nil_iff] at hrest
      obtain ⟨rfl, rfl, -⟩ := hrest
      exact .inr (keyPath_injective (hkey.trans (keyPath_key s).symm))

theorem Setting.path_apart {s t : Setting} (h : t ≠ s) : ¬s.path <+: t.path ∧ ¬t.path <+: s.path := by
  have hne : s.path ≠ t.path := by
    intro heq
    have hnames : s.name = t.name := (List.cons.inj (List.cons.inj heq).2).1
    exact h (Setting.name_injective hnames).symm
  exact ⟨fun hinitial => hne (hinitial.eq_of_length rfl),
    fun hinitial => hne (hinitial.eq_of_length rfl).symm⟩

end Config

namespace ConfigFile

/-- The dotted key of a setting stands behind the key of its section. -/
def Shadowed (s : Setting) (es : Entries) : Prop :=
  List.Sublist [.text s.section.name, .text s.key] (es.map Prod.fst)

section
variable {s : Setting} {es inner : Entries} {ws ws' vs : List Write} {v : Value}

theorem shadowed_iff {before after : Entries} {y : Value}
    (h : Entries.Tidy (before ++ (.text s.section.name, y) :: after)) :
    Shadowed s (before ++ (.text s.section.name, y) :: after) ↔ ∃ z, (.text s.key, z) ∈ after := by
  unfold Shadowed
  have hmem : (∃ z, (Value.text s.key, z) ∈ after) ↔ Value.text s.key ∈ after.map Prod.fst := by
    simp [List.mem_map]
  rw [hmem]
  induction before with
  | nil => rw [List.nil_append, List.map_cons, List.cons_sublist_cons, List.singleton_sublist]
  | cons e before ih =>
    rw [List.cons_append, List.map_cons]
    refine Iff.trans ?_ (ih h.tail)
    have hlater : (Value.text s.section.name, y) ∈ before ++ (.text s.section.name, y) :: after := by
      simp
    have hne : Value.text s.section.name ≠ e.1 := h.fresh hlater
    rw [List.sublist_cons_iff]
    exact or_iff_left fun ⟨_, heq, _⟩ => hne (List.cons.inj heq).1

/-- What is written behind a section, at the path of one of its settings or on the way to it. -/
theorem later_writes {before after : Entries} {y : Value}
    (htidy : Entries.Tidy (before ++ (.text s.section.name, y) :: after))
    (hvs : writes? after = some vs) :
    (Shadowed s (before ++ (.text s.section.name, y) :: after) → ∃ us w rest, vs = us ++ w :: rest ∧
        w.path = s.path ∧ ∀ u ∈ rest, ¬u.path <+: s.path) ∧
      (¬Shadowed s (before ++ (.text s.section.name, y) :: after) →
        ∀ u ∈ vs, ¬u.path <+: s.path) := by
  rw [shadowed_iff htidy]
  have hsection : ∀ z, (Value.text s.section.name, z) ∉ after :=
    fun z hz => htidy.behind.fresh hz rfl
  have hkey : ∀ {rest : Entries} {us : List Write}, writes? rest = some us → (∀ e ∈ rest, e ∈ after) →
      (∀ z, (Value.text s.key, z) ∉ rest) → ∀ u ∈ us, ¬u.path <+: s.path := by
    intro rest us hus hrest hno u hu hinitial
    obtain ⟨key, z, hmem, hkey⟩ := exists_key_of_mem_writes? hus hu
    rcases key_of_prefix (hkey.trans hinitial) with rfl | rfl
    · exact hsection z (hrest _ hmem)
    · exact hno z hmem
  refine ⟨?_, fun hno => hkey hvs (fun e he => he) fun z hz => hno ⟨z, hz⟩⟩
  rintro ⟨z, hz⟩
  obtain ⟨first, last, rfl⟩ := List.append_of_mem hz
  obtain ⟨us, rest, -, hrest, rfl⟩ := writes?_append_eq_some hvs
  obtain ⟨own, us', hown, hus', rfl⟩ := writes?_cons_eq_some hrest
  obtain ⟨inside, -, rfl⟩ := textWrites?_eq_some hown
  refine ⟨us, ⟨keyPath s.key, z.spot, keyPath_ne_nil s.key⟩,
    inside.map (·.under (keyPath s.key)) ++ us',
    rfl, keyPath_key s, List.forall_mem_append.mpr ⟨fun u hu => ?_, ?_⟩⟩
  · obtain ⟨w, -, rfl⟩ := List.mem_map.mp hu
    rw [← keyPath_key]
    exact w.not_under_prefix _
  · exact hkey hus' (fun e he => by simp [he])
      fun z' hz' => htidy.behind.tail.behind.fresh hz' rfl

/-- The writes of a section before and after one of its settings is set. -/
theorem field_writes (hinner : inner.Tidy) (hws : writes? inner = some ws)
    (hws' : writes? (inner.set s.name v) = some ws') : ∃ us old own vs, ws = us ++ old ++ vs ∧
      ws' = us ++ (⟨[s.name], v.spot, List.cons_ne_nil _ _⟩ :: own) ++ vs ∧
      (∀ u ∈ old, [s.name] <+: u.path) ∧ (∀ u ∈ own, [s.name] <+: u.path ∧ ¬u.path <+: [s.name]) ∧
      ∀ u ∈ vs, ¬u.path <+: [s.name] := by
  obtain ⟨us, old, new, vs, rfl, rfl, hnew, hcases⟩ := set_writes hinner hws hws'
  obtain ⟨own, -, rfl⟩ := textWrites?_eq_some hnew
  have hown : ∀ u ∈ own.map (·.under (keyPath s.name)),
      [s.name] <+: u.path ∧ ¬u.path <+: [s.name] := by
    intro u hu
    obtain ⟨w, -, rfl⟩ := List.mem_map.mp hu
    rw [← keyPath_name]
    exact ⟨List.prefix_append _ _, w.not_under_prefix _⟩
  refine ⟨us, old, own.map (·.under (keyPath s.name)), vs, rfl, by simp [keyPath_name], ?_, hown, ?_⟩
  · rcases hcases with ⟨-, rfl, -⟩ | ⟨y, before, after, -, hold, -⟩
    · exact List.forall_mem_nil _
    · exact fun u hu => keyPath_name s ▸ keyPath_prefix hold hu
  · rcases hcases with ⟨-, -, rfl⟩ | ⟨y, before, after, rfl, -, hvs⟩
    · exact List.forall_mem_nil _
    · intro u hu hinitial
      obtain ⟨key, z, hmem, hkey⟩ := exists_key_of_mem_writes? hvs hu
      have hpath := (hkey.trans hinitial).eq_of_length_le
        (List.length_pos_of_ne_nil (keyPath_ne_nil key))
      refine hinner.behind.fresh hmem ?_
      rw [keyPath_injective (hpath.trans (keyPath_name s).symm)]

/-- Writes of which those along the path of a setting are exchanged, with a last one at its path. -/
structure Exchange (s : Setting) (v : Value) (ws ws' : List Write) where
  us : List Write
  old : List Write
  parents : List Write
  own : List Write
  vs : List Write
  before_eq : ws = us ++ old ++ vs
  after_eq : ws' = us ++ (parents ++ ⟨s.path, v.spot, List.cons_ne_nil _ _⟩ :: own) ++ vs
  old_along : ∀ u ∈ old, u.Along s.path
  parents_along : ∀ u ∈ parents, u.Along s.path
  own_below : ∀ u ∈ own, s.path <+: u.path ∧ ¬u.path <+: s.path

/-- Writes in a section and the paths of its settings. -/
theorem under_section (s : Setting) (u : Write) :
    (s.path <+: (u.under (keyPath s.section.name)).path ↔ [s.name] <+: u.path) ∧
      ((u.under (keyPath s.section.name)).path <+: s.path ↔ u.path <+: [s.name]) := by
  have hpath : (u.under (keyPath s.section.name)).path = [s.section.name] ++ u.path := by
    rw [Write.under, keyPath_sectionName]
  rw [hpath, show s.path = [s.section.name] ++ [s.name] from rfl, List.prefix_append_right_inj,
    List.prefix_append_right_inj]
  exact ⟨Iff.rfl, Iff.rfl⟩

theorem not_shadowed_of_get?_none (hes : es.Tidy) (h : es.get? s.section.name = none) :
    ¬Shadowed s es := by
  intro hshadowed
  have hmem := hshadowed.subset List.mem_cons_self
  obtain ⟨⟨_, y⟩, hy, rfl⟩ := List.mem_map.mp hmem
  rw [hes.get?_eq_some_iff.mpr hy] at h
  cases h

/-- The write of a section itself lies on the way to its settings. -/
theorem along_section (s : Setting) :
    (Write.mk (keyPath s.section.name) .mapping (keyPath_ne_nil _)).Along s.path := by
  refine .inr ⟨?_, rfl⟩
  show keyPath s.section.name <+: [s.section.name] ++ [s.name]
  rw [keyPath_sectionName]
  exact List.prefix_append _ _

/-- What is written below a setting in its section is below its path in the file. -/
theorem below_section (hws : ∀ u ∈ ws, [s.name] <+: u.path ∧ ¬u.path <+: [s.name]) :
    ∀ u ∈ ws.map (·.under (keyPath s.section.name)), s.path <+: u.path ∧ ¬u.path <+: s.path := by
  intro u hu
  obtain ⟨w, hw, rfl⟩ := List.mem_map.mp hu
  obtain ⟨hbelow, habove⟩ := under_section s w
  exact ⟨hbelow.mpr (hws w hw).1, fun h => (hws w hw).2 (habove.mp h)⟩

theorem name_under_section (s : Setting) (v : Value) :
    (Write.mk [s.name] v.spot (List.cons_ne_nil _ _)).under [s.section.name] =
      ⟨s.path, v.spot, List.cons_ne_nil _ _⟩ := rfl

/-- In a section that is new, nothing is written before the setting or behind it. -/
theorem exchange_new (us : List Write) (hws : writes? (Entries.set [] s.name v) = some ws) :
    ∃ x : Exchange s v us (us ++ ⟨keyPath s.section.name, .mapping, keyPath_ne_nil _⟩ ::
      ws.map (·.under (keyPath s.section.name))), x.vs = [] := by
  obtain ⟨us', old, own, vs', hnil, rfl, -, hown, -⟩ := field_writes Entries.tidy_nil
    (show writes? [] = some [] by rw [writes?]) hws
  obtain ⟨⟨rfl, -⟩, rfl⟩ : (us' = [] ∧ old = []) ∧ vs' = [] := by
    simpa only [List.append_eq_nil_iff] using hnil.symm
  refine ⟨⟨us, [], [_], own.map (·.under (keyPath s.section.name)), [], by simp, ?_,
    List.forall_mem_nil _, List.forall_mem_singleton.mpr (along_section s), below_section hown⟩, rfl⟩
  simp [keyPath_sectionName, name_under_section]

/-- In a section that keeps its place, what is written before the setting and behind it stays. -/
theorem exchange_kept (us vs : List Write) (hinner : inner.Tidy) (hws : writes? inner = some ws)
    (hws' : writes? (inner.set s.name v) = some ws') :
    let parent : Write := ⟨keyPath s.section.name, .mapping, keyPath_ne_nil _⟩
    ∃ (x : Exchange s v (us ++ (parent :: ws.map (·.under (keyPath s.section.name))) ++ vs)
        (us ++ (parent :: ws'.map (·.under (keyPath s.section.name))) ++ vs)) (later : List Write),
      x.vs = later ++ vs ∧ ∀ u ∈ later, ¬u.path <+: s.path := by
  intro parent
  obtain ⟨us', old, own, vs', rfl, rfl, hold, hown, hvs'⟩ := field_writes hinner hws hws'
  refine ⟨⟨us ++ parent :: us'.map (·.under (keyPath s.section.name)),
    old.map (·.under (keyPath s.section.name)), [], own.map (·.under (keyPath s.section.name)),
    vs'.map (·.under (keyPath s.section.name)) ++ vs, ?_, ?_, fun u hu => ?_, List.forall_mem_nil _,
    below_section hown⟩, _, rfl, fun u hu => ?_⟩
  · simp [parent]
  · simp [parent, keyPath_sectionName, name_under_section]
  · obtain ⟨w, hw, rfl⟩ := List.mem_map.mp hu
    exact .inl ((under_section s w).1.mpr (hold w hw))
  · obtain ⟨w, hw, rfl⟩ := List.mem_map.mp hu
    exact fun hinitial => hvs' w hw ((under_section s w).2.mp hinitial)

theorem eq_map_of_mappingAt? {key : String} {y : Value} (hget : es.get? key = some y)
    (hinner : es.mappingAt? key = some inner) : y = .map inner := by
  rw [Entries.mappingAt?, hget] at hinner
  cases y with
  | map inner' => exact congrArg _ (Option.some.inj hinner)
  | _ => cases hinner

/-- The writes of the file before and after a setting is assigned. -/
theorem assigned_writes (hes : es.Tidy) (hinner : es.mappingAt? s.section.name = some inner)
    (hws : writes? es = some ws)
    (hws' : writes? (es.set s.section.name (.map (inner.set s.name v))) = some ws') :
    ∃ x : Exchange s v ws ws',
      (Shadowed s es → ∃ us w rest, x.vs = us ++ w :: rest ∧ w.path = s.path ∧
        ∀ u ∈ rest, ¬u.path <+: s.path) ∧
      (¬Shadowed s es → ∀ u ∈ x.vs, ¬u.path <+: s.path) := by
  obtain ⟨us, old, new, vs, rfl, rfl, hnew, hcases⟩ := set_writes hes hws hws'
  obtain ⟨wi', hwi', rfl⟩ := textWrites?_eq_some hnew
  rcases hcases with ⟨hnone, rfl, rfl⟩ | ⟨y, before, after, rfl, hold, hvs⟩
  · -- The section is new.
    obtain rfl : inner = [] := by
      rw [Entries.mappingAt?, hnone] at hinner
      exact (Option.some.inj hinner).symm
    obtain ⟨x, hx⟩ := exchange_new us hwi'
    rw [List.append_nil, List.append_nil, List.append_nil]
    refine ⟨x, fun h => absurd h (not_shadowed_of_get?_none hes hnone), fun _ => ?_⟩
    rw [hx]
    exact List.forall_mem_nil _
  · -- The section keeps its place.
    have hget := hes.get?_eq_some_iff.mpr (List.mem_append_right before List.mem_cons_self)
    obtain rfl := eq_map_of_mappingAt? hget hinner
    obtain ⟨wi, hwi, rfl⟩ := textWrites?_eq_some hold
    obtain ⟨x, later, hx, hlater⟩ := exchange_kept us vs (hes.mappingAt? hinner) hwi hwi'
    obtain ⟨hshadowed, hclear⟩ := later_writes (s := s) hes hvs
    refine ⟨x, fun h => ?_, fun h => hx ▸ List.forall_mem_append.mpr ⟨hlater, hclear h⟩⟩
    obtain ⟨first, w, rest, rfl, hw, hrest⟩ := hshadowed h
    exact ⟨later ++ first, w, rest, by rw [hx, List.append_assoc], hw, hrest⟩

/-! ## What the file makes of the defaults -/

/-- **Before and after an assignment** the same stands at the paths of all other settings. At the path
of the setting stands its new value, unless its dotted key has the last word. -/
theorem assigned_layouts (hes : es.Tidy) (hinner : es.mappingAt? s.section.name = some inner)
    (hws : writes? es = some ws)
    (hws' : writes? (es.set s.section.name (.map (inner.set s.name v))) = some ws')
    {l m m' : Layout} (hm : l.writeAll? ws = some m) (hm' : l.writeAll? ws' = some m') :
    m.AgreesOff s.path m' ∧ (Shadowed s es → m s.path = m' s.path) ∧
      (¬Shadowed s es → m' s.path = some v.spot) := by
  obtain ⟨⟨us, old, parents, own, vs, rfl, rfl, hold, hparents, hown⟩, hshadowed, hclear⟩ :=
    assigned_writes hes hinner hws hws'
  have hnew : ∀ u ∈ parents ++ ⟨s.path, v.spot, List.cons_ne_nil _ _⟩ :: own, u.Along s.path :=
    List.forall_mem_append.mpr ⟨hparents, List.forall_mem_cons.mpr
      ⟨.inl (List.prefix_refl _), fun u hu => .inl (hown u hu).1⟩⟩
  refine ⟨Layout.writeAll?_exchange hm hm' hold hnew, fun h => ?_, fun h => ?_⟩
  · obtain ⟨first, w, rest, hvs, hw, hrest⟩ := hshadowed h
    simp only at hvs
    subst hvs
    rw [← List.append_assoc] at hm hm'
    rw [← hw] at hrest ⊢
    rw [Layout.writeAll?_last hm hrest, Layout.writeAll?_last hm' hrest]
  · have hrest : ∀ u ∈ own ++ vs, ¬u.path <+: s.path :=
      List.forall_mem_append.mpr ⟨fun u hu => (hown u hu).2, hclear h⟩
    rw [show us ++ (parents ++ ⟨s.path, v.spot, List.cons_ne_nil _ _⟩ :: own) ++ vs =
      (us ++ parents) ++ ⟨s.path, v.spot, List.cons_ne_nil _ _⟩ :: (own ++ vs) by simp] at hm'
    exact Layout.writeAll?_last (w := ⟨s.path, v.spot, List.cons_ne_nil _ _⟩) hm' hrest

/-- What the file alone makes up. -/
theorem merged_of_resolve {c : Config} (h : Config.resolve (some (.map es)) none none = .ok c) :
    ∃ ws merged, writes? es = some ws ∧
      ({} : Config).entries.layout.writeAll? ws = some (Entries.layout merged) ∧
      Config.check (.map merged) = .valid c := by
  unfold Config.resolve resolveOver at h
  have hlayout := overlay_layout .file es ({} : Config).entries
  cases hmerged : overlay .file ({} : Config).entries es with
  | error e =>
    simp only [overlayLayer, hmerged, bind, Except.bind] at h
    cases h
  | ok merged =>
    simp only [overlayLayer, hmerged, bind, Except.bind] at h
    rw [hmerged] at hlayout
    obtain ⟨ws, hws, hmerged⟩ := Option.bind_eq_some_iff.mp hlayout.symm
    refine ⟨ws, merged, hws, hmerged, ?_⟩
    split at h
    · next c' hc' => rw [hc', Except.ok.inj h]
    · cases h

end

/-! ## Requests -/

section
variable {f : ConfigFile} {es : Entries} {c : Config} {s : Setting} {key value : String}

theorem resolve_alone_iff : f.resolve none none = .ok c ↔
    ∃ es, f.entries = .ok es ∧ Config.resolve (some (.map es)) none none = .ok c := by
  unfold resolve
  cases f.entries with
  | error e => simp [bind, Except.bind, pure, Except.pure]
  | ok es =>
    cases hc : Config.resolve (some (.map es)) none none <;>
      simp [bind, Except.bind, pure, Except.pure, hc, Config.rejecting]

theorem entries_distinct (h : f.entries = .ok es) : (Value.map es).Distinct := by
  rw [entries_eq_parse] at h
  unfold parse at h
  split at h
  · cases h
  · cases h
  · next v hv =>
    split at h
    · rw [← Except.ok.inj h]
      exact .map .nil (List.forall_mem_nil _)
    · split at h
      · rw [← Except.ok.inj h]
        exact Yaml.read_distinct hv
      · cases h

/-- An assignment sets the value in the section of the setting. -/
theorem assigned_eq_ok {es' : Entries} (hes : f.entries = .ok es) (hkey : segments key = s.path)
    (h : f.assigned key value = .ok es') : ∃ v inner, Yaml.read value = .ok v ∧
      es.mappingAt? s.section.name = some inner ∧
      es' = es.set s.section.name (.map (inner.set s.name v)) := by
  unfold assigned at h
  rw [hkey, hes] at h
  change (parseValue value >>= fun v => rejecting (changeAt .notAssignable
    (fun node => .ok (node.set s.name v)) [s.section.name] es)) = .ok es' at h
  cases hv : parseValue value with
  | error e =>
    rw [hv] at h
    cases h
  | ok v =>
    have hread : Yaml.read value = .ok v := by
      unfold parseValue at hv
      split at hv
      · next v' hv' => rw [hv', Except.ok.inj hv]
      · cases hv
      · cases hv
    rw [hv] at h
    change rejecting (changeAt _ _ [s.section.name] es) = _ at h
    rw [changeAt] at h
    cases hinner : es.mappingAt? s.section.name with
    | none =>
      rw [hinner] at h
      cases h
    | some inner =>
      rw [hinner] at h
      exact ⟨v, inner, hread, rfl, (Except.ok.inj h).symm⟩

/-- **Assigning to a setting**, in a file that makes up a configuration. A failure leaves the text
as it is. Otherwise, if the text that was saved is read as what was saved, the file makes up the
configuration with the checked value for this setting and all others as they were. If the dotted key
of the setting stands behind its section, though, the configuration is the one from before. -/
theorem assign_exact (hes : f.entries = .ok es) (hc : f.resolve none none = .ok c)
    (hkey : segments key = s.path) :
    (∀ failure, (f.assign key value).2 = some failure → (f.assign key value).1.text = f.text) ∧
      ((f.assign key value).2 = none →
        (f.assign key value).1.entries = f.assigned key value →
        ∃ v c', Yaml.read value = .ok v ∧ (f.assign key value).1.resolve none none = .ok c' ∧
          (∀ t, t ≠ s → t.of c' = t.of c) ∧ (¬Shadowed s es → s.check v = .valid (s.of c')) ∧
          (Shadowed s es → s.of c' = s.of c)) := by
  refine ⟨fun failure => text_of_assign_eq_some, fun hassign hback => ?_⟩
  obtain ⟨es', hes', c', hc'⟩ : ∃ es', f.assigned key value = .ok es' ∧
      ∃ c', Config.resolve (some (.map es')) none none = .ok c' := by
    unfold assign at hassign
    split at hassign
    · cases hassign
    · next es' hes' =>
      unfold saveChecked at hassign
      split at hassign
      · cases hassign
      · next c' hc' => exact ⟨es', hes', c', hc'⟩
  obtain ⟨v, inner, hv, hinner, rfl⟩ := assigned_eq_ok hes hkey hes'
  obtain ⟨_, hsame, hcfile⟩ := resolve_alone_iff.mp hc
  obtain rfl := Except.ok.inj (hes.symm.trans hsame)
  obtain ⟨ws, merged, hws, hmerged, hchecked⟩ := merged_of_resolve hcfile
  obtain ⟨ws', merged', hws', hmerged', hchecked'⟩ := merged_of_resolve hc'
  have htidy : es.Tidy := tidy_of_distinct (entries_distinct hes) rfl hws
  obtain ⟨hoff, hshadowed, hclear⟩ := assigned_layouts htidy hinner hws hws' hmerged hmerged'
  refine ⟨v, c', hv, resolve_alone_iff.mpr ⟨_, hback.trans hes', hc'⟩, fun t ht => ?_, fun h => ?_,
    fun h => ?_⟩
  · have hapart := Setting.path_apart ht
    have hreads := check_reads hchecked t
    rw [hoff t.path hapart.1 hapart.2] at hreads
    exact (check_reads hchecked' t).unique hreads
  · have hreads := check_reads hchecked' s
    rw [hclear h] at hreads
    cases v with
    | map inner' => exact hreads.elim
    | _ => exact hreads
  · have hreads := check_reads hchecked s
    rw [hshadowed h] at hreads
    exact (check_reads hchecked' s).unique hreads

/-- A mapping that makes up a configuration is saved below the header. -/
theorem assign_of_assigned {body : String} (hassigned : f.assigned key value = .ok es)
    (hc : Config.resolve (some (.map es)) none none = .ok c) (hbody : Yaml.write es = .ok body) :
    (f.assign key value).2 = none ∧ (f.assign key value).1.text =
      some (header ++ stampMark ++ " " ++ f.stamp (f.saves + 1) ++ "\n" ++ body) := by
  unfold assign saveChecked save
  simp only [hassigned, hc, hbody, and_self]

/-- A new limit goes into its section, and the dotted key of another setting is kept. -/
theorem assign_exact_history_limit :
    let f : ConfigFile := { text := some "engine: {history_limit: 3}\ncli.transcript_limit: 7\n"
                            stamp := fun _ => "now" }
    let saved := (f.assign "engine.history_limit" "7").1
    (f.assign "engine.history_limit" "7").2 = none ∧
      saved.entries = f.assigned "engine.history_limit" "7" ∧
      ∃ c', saved.resolve none none = .ok c' ∧ c'.engine.historyLimit.val = 7 ∧
        c'.cli.transcriptLimit = 7 := by
  intro f saved
  let es (limit : Int) : Entries :=
    [(.text "engine", .map [(.text "history_limit", .int limit)]), (.text "cli.transcript_limit", .int 7)]
  have hes : f.entries = .ok (es 3) := by decide +kernel
  have hassigned : f.assigned "engine.history_limit" "7" = .ok (es 7) := by decide +kernel
  have hc : f.resolve none none = .ok
      { engine := { historyLimit := ⟨3, by decide⟩ }, cli := { transcriptLimit := 7 } } := by
    decide +kernel
  have hc' : Config.resolve (some (.map (es 7))) none none = .ok
      { engine := { historyLimit := ⟨7, by decide⟩ }, cli := { transcriptLimit := 7 } } := by
    decide +kernel
  have hbody : Yaml.write (es 7) = .ok "engine:\n  history_limit: 7\ncli.transcript_limit: 7\n" := by
    decide +kernel
  obtain ⟨hassign, hsaved⟩ := assign_of_assigned hassigned hc' hbody
  have hback : saved.entries = .ok (es 7) := by
    rw [entries_saved (show OneLine "now" by decide) hbody hsaved]
    decide +kernel
  have hshadowed : ¬Shadowed .historyLimit (es 3) := by
    unfold Shadowed
    decide +kernel
  obtain ⟨v, c', hv, hc', hothers, hclear, -⟩ := (assign_exact (s := .historyLimit) hes hc
    (by decide +kernel)).2 hassign (hback.trans hassigned.symm)
  refine ⟨hassign, hback.trans hassigned.symm, c', hc', ?_, hothers .transcriptLimit (by decide)⟩
  have hseven : Yaml.read "7" = .ok (.int 7) := by decide +kernel
  have hlimit := hclear hshadowed
  rw [← Except.ok.inj (hseven.symm.trans hv)] at hlimit
  exact congrArg Subtype.val (Schema.Checked.valid.inj hlimit).symm

/-- A limit under its dotted key behind its section keeps its value, whatever is assigned. -/
theorem assign_shadowed_history_limit :
    let f : ConfigFile := { text := some "engine: {history_limit: 3}\nengine.history_limit: 5\n"
                            stamp := fun _ => "now" }
    let saved := (f.assign "engine.history_limit" "7").1
    let c : Config := { engine := { historyLimit := ⟨5, by decide⟩ } }
    f.resolve none none = .ok c ∧ (f.assign "engine.history_limit" "7").2 = none ∧
      saved.entries = f.assigned "engine.history_limit" "7" ∧ saved.resolve none none = .ok c := by
  intro f saved c
  let es : Entries :=
    [(.text "engine", .map [(.text "history_limit", .int 7)]), (.text "engine.history_limit", .int 5)]
  have hassigned : f.assigned "engine.history_limit" "7" = .ok es := by decide +kernel
  have hc : Config.resolve (some (.map es)) none none = .ok c := by decide +kernel
  have hbody : Yaml.write es = .ok "engine:\n  history_limit: 7\nengine.history_limit: 5\n" := by
    decide +kernel
  obtain ⟨hassign, hsaved⟩ := assign_of_assigned hassigned hc hbody
  have hback : saved.entries = .ok es := by
    rw [entries_saved (show OneLine "now" by decide) hbody hsaved]
    decide +kernel
  exact ⟨by decide +kernel, hassign, hback.trans hassigned.symm,
    resolve_alone_iff.mpr ⟨es, hback, hc⟩⟩

end

end ConfigFile

end FolderTalk
