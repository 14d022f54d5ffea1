import FolderTalk.Proofs.Config.Rejection
import FolderTalk.Proofs.Config.Reordered
import FolderTalk.Proofs.Config.Writes
import FolderTalk.Proofs.Data.Deciding

/-!
# The order of variables

Variables are taken one after another. Their order does not matter as long as no variable puts a
value that is no mapping in the way of another one: what they give together is then told path by
path from what each gives alone.

* `Write.Overrides`, `Write.commute_iff` : two writes can be exchanged exactly if neither overrides
  the other;
* `Variable.Clash` : variables of which some writes cannot be exchanged;
* `ofEnvironment_layout` : what variables without a clash give together;
* `ofEnvironment_perm` : such variables give the same in any order, or fail in any order.
-/

namespace FolderTalk

/-! ## Writes that do not clash -/

/-- A write puts a value that is no mapping on the way of another write, or at its end, where that
one does not put the same. -/
def Write.Overrides (w w' : Write) : Prop :=
  w.spot.isLeaf ∧ w.path <+: w'.path ∧ ¬(w.path = w'.path ∧ w.spot = w'.spot)

def Write.Clash (w w' : Write) : Prop := w.Overrides w' ∨ w'.Overrides w

theorem Write.Clash.symm {w w' : Write} (h : w.Clash w') : w'.Clash w := Or.symm h

/-- A write that does not override another one puts a mapping at its end, if the other one goes on
from there. -/
theorem Write.spot_of_not_overrides {w w' : Write} (h : ¬w.Overrides w')
    (hinitial : w.path <+: w'.path) (hne : ¬(w.path = w'.path ∧ w.spot = w'.spot)) :
    w.spot = .mapping := by
  cases hspot : w.spot with
  | mapping => rfl
  | leaf v =>
    refine absurd ⟨?_, hinitial, hne⟩ h
    rw [hspot]
    rfl

/-- Writes that do not clash put the same wherever both put something. -/
theorem Write.at?_unique {w w' : Write} (h : ¬w.Clash w') {path : List String} {s s' : Spot}
    (hs : w.at? path = some s) (hs' : w'.at? path = some s') : s = s' := by
  obtain ⟨hno, hno'⟩ := not_or.mp h
  rcases w.at?_eq_some hs with ⟨rfl, rfl⟩ | ⟨hne, hinitial, rfl⟩ <;>
    rcases w'.at?_eq_some hs' with ⟨hpath', rfl⟩ | ⟨hne', hinitial', rfl⟩
  · -- Both end here.
    by_contra hdiffer
    have hmapping := spot_of_not_overrides hno (hpath' ▸ List.prefix_refl _) fun h => hdiffer h.2
    have hmapping' :=
      spot_of_not_overrides hno' (hpath' ▸ List.prefix_refl _) fun h => hdiffer h.2.symm
    exact hdiffer (hmapping.trans hmapping'.symm)
  · exact spot_of_not_overrides hno hinitial' fun h => hne' h.1
  · subst hpath'
    exact (spot_of_not_overrides hno' hinitial fun h => hne h.1).symm
  · rfl

section Commuting
variable {w w' : Write} {l : Layout}

/-- A write that does not clash with one before it is refused only if it would have been before. -/
theorem Layout.leads_onto (h : ¬w.Clash w') (hl : l.leads w'.path = true) :
    (w.onto l).leads w'.path = true := by
  rw [leads_iff] at hl ⊢
  intro before v hbefore hv
  by_contra hne
  rw [Write.onto, Option.or_eq_some_iff] at hv
  rcases hv with hv | ⟨-, hv⟩
  · have hat : w'.at? before = some .mapping := by rw [Write.at?, if_neg hne, if_pos hbefore]
    cases Write.at?_unique h hv hat
  · split at hv
    · cases hv
    · exact hne (hl before v hbefore hv)

/-- A write leaves what a write puts with which it does not clash. -/
theorem Write.not_clears (h : ¬w.Clash w') {path : List String} {s : Spot} (hat : w.at? path = none)
    (hs : w'.at? path = some s) : w.clears path = false := by
  rw [← Bool.not_eq_true]
  intro hclears
  obtain ⟨hleaf, hinitial⟩ := Bool.and_eq_true_iff.mp hclears
  have hinitial := List.isPrefixOf_iff_prefix.mp hinitial
  have hpath := w'.prefix_of_at? hs
  refine h (.inl ⟨hleaf, hinitial.trans hpath, fun heq => ?_⟩)
  have hend : path = w.path := (heq.1 ▸ hpath).eq_of_length_le hinitial.length_le
  rw [at?, if_pos hend] at hat
  cases hat

/-- A write with another one on its way is refused behind that one or loses to it. -/
theorem Write.Overrides.not_commute (h : w.Overrides w') (hw : l.leads w.path = true)
    (hw' : l.leads w'.path = true) :
    (l.write? w).bind (·.write? w') ≠ (l.write? w').bind (·.write? w) := by
  obtain ⟨hleaf, hinitial, hdiffer⟩ := h
  have hbehind : (w'.onto l).leads w.path = true := by
    rw [Layout.leads_iff]
    intro before v hbefore hv
    by_contra hne
    have hnot : before ≠ w'.path := fun heq =>
      hne (hbefore.eq_of_length_le (heq ▸ hinitial).length_le)
    rw [onto, at?, if_neg hnot, if_pos (hbefore.trans hinitial)] at hv
    cases hv
  rw [Layout.write?, Layout.write?, if_pos hw, if_pos hw', Option.bind_some, Option.bind_some,
    Layout.write?, Layout.write?, if_pos hbehind]
  intro heq
  split at heq
  · next hleads =>
    obtain ⟨v, hv⟩ : ∃ v, w.spot = .leaf v := by
      cases hspot : w.spot with
      | mapping => rw [hspot] at hleaf; cases hleaf
      | leaf v => exact ⟨v, rfl⟩
    have hpath := Layout.leads_iff.mp hleads w.path v hinitial (by rw [onto_path, hv])
    have hspots := congrFun (Option.some.inj heq) w.path
    rw [onto_path] at hspots
    rw [hpath, onto_path] at hspots
    exact hdiffer ⟨hpath, (Option.some.inj hspots).symm⟩
  · cases heq

/-- **Two writes can be exchanged** exactly if they do not clash. -/
theorem Write.commute_iff (hw : l.leads w.path = true) (hw' : l.leads w'.path = true) :
    (l.write? w).bind (·.write? w') = (l.write? w').bind (·.write? w) ↔ ¬w.Clash w' := by
  constructor
  · rintro heq (hoverrides | hoverrides)
    · exact hoverrides.not_commute hw hw' heq
    · exact hoverrides.not_commute hw' hw heq.symm
  · intro h
    have h' : ¬w'.Clash w := mt Clash.symm h
    rw [Layout.write?, Layout.write?, if_pos hw, if_pos hw', Option.bind_some, Option.bind_some,
      Layout.write?, Layout.write?, if_pos (Layout.leads_onto h hw'),
      if_pos (Layout.leads_onto h' hw)]
    congr 1
    funext path
    unfold onto
    cases hat : w.at? path with
    | none =>
      cases hat' : w'.at? path with
      | none => cases w.clears path <;> cases w'.clears path <;> simp
      | some s => simp [not_clears h hat hat']
    | some s =>
      cases hat' : w'.at? path with
      | none => simp [not_clears h' hat' hat]
      | some s' => simp [at?_unique h hat hat']

end Commuting

/-! ## Writes beside what is there -/

/-- What stands in a layout or, where it has nothing, in another one. -/
def Layout.laidOn (l background : Layout) : Layout := fun path => (l path).or (background path)

section Beside
variable {l background : Layout}

theorem Layout.leads_laidOn {w : Write}
    (hclear : ∀ path s s', w.at? path = some s → background path = some s' → s = s') :
    (l.laidOn background).leads w.path = l.leads w.path := by
  rw [Bool.eq_iff_iff, leads_iff, leads_iff]
  refine ⟨fun h before v hbefore hv => h before v hbefore (by rw [laidOn, hv]; rfl),
    fun h before v hbefore hv => ?_⟩
  by_contra hne
  cases hl : l before with
  | some s =>
    rw [laidOn, hl] at hv
    exact hne (h before v hbefore (hl.trans hv))
  | none =>
    rw [laidOn, hl, Option.none_or] at hv
    have hat : w.at? before = some .mapping := by rw [Write.at?, if_neg hne, if_pos hbefore]
    cases hclear before _ _ hat hv

theorem Layout.onto_laidOn (hbelow : ∀ path rest, background path ≠ some .mapping → rest ≠ [] →
      background (path ++ rest) = none) {w : Write}
    (hclear : ∀ path s s', w.at? path = some s → background path = some s' → s = s') :
    w.onto (l.laidOn background) = (w.onto l).laidOn background := by
  funext path
  show (w.at? path).or (if w.clears path then none else (l path).or (background path)) =
    ((w.at? path).or (if w.clears path then none else l path)).or (background path)
  by_cases hclears : w.clears path = true
  · -- A leaf clears what is below it, and there the background has nothing.
    rw [if_pos hclears, if_pos hclears, Option.or_none]
    cases hat : w.at? path with
    | some s => rfl
    | none =>
      unfold Write.clears at hclears
      obtain ⟨hleaf, hinitial⟩ := Bool.and_eq_true_iff.mp hclears
      obtain ⟨rest, rfl⟩ := List.isPrefixOf_iff_prefix.mp hinitial
      have hrest : rest ≠ [] := by
        rintro rfl
        rw [List.append_nil, Write.at?, if_pos rfl] at hat
        cases hat
      have hno : background w.path ≠ some .mapping := by
        intro hmapping
        rw [hclear w.path w.spot .mapping (if_pos rfl) hmapping] at hleaf
        cases hleaf
      rw [hbelow w.path rest hno hrest]
      rfl
  · rw [if_neg hclears, if_neg hclears, Option.or_assoc]

/-- A write does the same beside a background with which it does not clash. -/
theorem Layout.write?_laidOn (hbelow : ∀ path rest, background path ≠ some .mapping → rest ≠ [] →
      background (path ++ rest) = none) {w : Write}
    (hclear : ∀ path s s', w.at? path = some s → background path = some s' → s = s') :
    (l.laidOn background).write? w = (l.write? w).map (·.laidOn background) := by
  rw [write?, write?, leads_laidOn hclear, onto_laidOn hbelow hclear]
  split <;> rfl

theorem Layout.writeAll?_laidOn (hbelow : ∀ path rest, background path ≠ some .mapping → rest ≠ [] →
      background (path ++ rest) = none) {ws : List Write}
    (hclear : ∀ w ∈ ws, ∀ path s s', w.at? path = some s → background path = some s' → s = s') :
    (l.laidOn background).writeAll? ws = (l.writeAll? ws).map (·.laidOn background) := by
  induction ws generalizing l with
  | nil => rfl
  | cons w ws ih =>
    obtain ⟨hw, hws⟩ := List.forall_mem_cons.mp hclear
    rw [writeAll?, writeAll?, write?_laidOn hbelow hw]
    cases l.write? w with
    | none => rfl
    | some l' => exact ih hws

/-- What stands anywhere after some writes was put there by one of them or stood there before. -/
theorem Layout.of_writeAll? {ws : List Write} {l l' : Layout} (h : l.writeAll? ws = some l')
    {path : List String} {s : Spot} (hs : l' path = some s) :
    (∃ w ∈ ws, w.at? path = some s) ∨ l path = some s := by
  induction ws generalizing l with
  | nil => exact .inr (Option.some.inj h ▸ hs)
  | cons w ws ih =>
    rw [writeAll?] at h
    obtain ⟨next, hnext, hrest⟩ := Option.bind_eq_some_iff.mp h
    rcases ih hrest with ⟨w', hw', hat⟩ | hat
    · exact .inl ⟨w', List.mem_cons_of_mem _ hw', hat⟩
    · unfold write? at hnext
      split at hnext
      · rw [← Option.some.inj hnext, Write.onto, Option.or_eq_some_iff] at hat
        rcases hat with hat | ⟨-, hat⟩
        · exact .inl ⟨w, List.mem_cons_self, hat⟩
        · split at hat
          · cases hat
          · exact .inr hat
      · cases hnext

end Beside

namespace Config

/-! ## Variables -/

namespace Variable

/-- What a variable writes; `none` if its text gives no value, or one with a key that is no text. -/
def writes? (a : String × String) : Option (List Write) :=
  match path? a.1 with
  | none => some []
  | some path => (value a.2).toOption.bind fun v => entryWrites? (.text (".".intercalate path), v)

/-- Some writes of two variables clash. -/
def Clash (a b : String × String) : Prop :=
  ∃ ws ws', writes? a = some ws ∧ writes? b = some ws' ∧ ∃ w ∈ ws, ∃ w' ∈ ws', w.Clash w'

theorem Clash.symm {a b : String × String} : Clash a b → Clash b a := by
  rintro ⟨ws, ws', hws, hws', w, hw, w', hw', hclash⟩
  exact ⟨ws', ws, hws', hws, w', hw', w, hw, hclash.symm⟩

/-- The paths of what a variable writes, and whether it is no mapping. -/
def outlines? (a : String × String) : Option (List (List String × Bool)) :=
  (writes? a).map (·.map fun w => (w.path, w.spot.isLeaf))

/-- Variables do not clash if no value of one that is no mapping lies on the way of the other. -/
theorem not_clash_of_outlines {a b : String × String} {xs ys : List (List String × Bool)}
    (ha : outlines? a = some xs) (hb : outlines? b = some ys)
    (h : ∀ x ∈ xs, ∀ y ∈ ys, ¬(x.2 = true ∧ x.1 <+: y.1) ∧ ¬(y.2 = true ∧ y.1 <+: x.1)) :
    ¬Clash a b := by
  rintro ⟨ws, ws', hws, hws', w, hw, w', hw', hclash⟩
  rw [outlines?, hws] at ha
  rw [outlines?, hws'] at hb
  obtain ⟨hno, hno'⟩ := h (w.path, w.spot.isLeaf)
    (Option.some.inj ha ▸ List.mem_map.mpr ⟨w, hw, rfl⟩) (w'.path, w'.spot.isLeaf)
    (Option.some.inj hb ▸ List.mem_map.mpr ⟨w', hw', rfl⟩)
  exact hclash.elim (fun h => hno ⟨h.1, h.2.1⟩) fun h => hno' ⟨h.1, h.2.1⟩

/-- What stands at each path when a variable is the only one, if this goes well. -/
def alone? (a : String × String) : Option Layout := (writes? a).bind (Entries.layout []).writeAll?

theorem add_layout (settings : Entries) (a : String × String) :
    (add settings a).toOption.map Entries.layout = (writes? a).bind settings.layout.writeAll? := by
  unfold add writes?
  cases path? a.1 with
  | none => rfl
  | some path =>
    cases value a.2 with
    | error e => rfl
    | ok v =>
      refine Eq.trans ?_ (overlayEntry_layout .environment (.text (".".intercalate path), v) settings)
      show (rejecting (overlayEntry _ _ _)).toOption.map _ = _
      cases overlayEntry .environment settings (.text (".".intercalate path), v) <;> rfl

/-- What a variable gives alone is what it writes. -/
theorem of_alone? {a : String × String} {l : Layout} (h : alone? a = some l) :
    ∃ ws, writes? a = some ws ∧ ∀ path s, l path = some s →
      (∃ w ∈ ws, w.at? path = some s) ∨ path = [] ∧ s = .mapping := by
  obtain ⟨ws, hws, hl⟩ := Option.bind_eq_some_iff.mp h
  refine ⟨ws, hws, fun path s hs => (Layout.of_writeAll? hl hs).imp_right fun hempty => ?_⟩
  cases path with
  | nil => exact ⟨rfl, (Option.some.inj hempty).symm⟩
  | cons key keys => cases hempty

/-- A variable beside settings with which it does not clash. -/
theorem add_layout_of_clear {settings : Entries} {a : String × String}
    (hclear : ∀ ws, writes? a = some ws → ∀ w ∈ ws, ∀ path s s', w.at? path = some s →
      settings.layout path = some s' → s = s') :
    (add settings a).toOption.map Entries.layout = (alone? a).map (·.laidOn settings.layout) := by
  rw [add_layout, alone?]
  cases hws : writes? a with
  | none => rfl
  | some ws =>
    have hlaid : settings.layout = (Entries.layout []).laidOn settings.layout := by
      funext path
      cases path <;> rfl
    rw [Option.bind_some, Option.bind_some]
    conv_lhs => rw [hlaid]
    exact Layout.writeAll?_laidOn (fun path rest => Entries.layout_below) (hclear ws hws)

end Variable

/-- What stands at each path when variables are taken one after another. -/
def Together (env : Environment) (l : Layout) : Prop :=
  ∀ path s, l path = some s ↔
    path = [] ∧ s = .mapping ∨ ∃ a ∈ env, ∃ la, Variable.alone? a = some la ∧ la path = some s

/-- What a variable writes goes together with what variables without a clash with it give. -/
theorem Together.unique {env : Environment} {a : String × String} {l : Layout} (h : Together env l)
    (hclash : ∀ b ∈ env, ¬Variable.Clash b a) {ws : List Write} (hws : Variable.writes? a = some ws)
    {w : Write} (hw : w ∈ ws) {path : List String} {s s' : Spot} (hs : w.at? path = some s)
    (hs' : l path = some s') : s = s' := by
  have hroot : path = [] ∧ s' = .mapping → s = s' := by
    rintro ⟨rfl, rfl⟩
    exact Option.some.inj (hs.symm.trans w.at?_nil)
  rcases (h path s').mp hs' with heq | ⟨b, hb, lb, hlb, hat⟩
  · exact hroot heq
  · obtain ⟨ws', hws', hput⟩ := Variable.of_alone? hlb
    rcases hput path s' hat with ⟨w', hw', hat'⟩ | heq
    · exact Write.at?_unique
        (fun hboth => hclash b hb ⟨ws', ws, hws', hws, w', hw', w, hw, hboth.symm⟩)
        hs hat'
    · exact hroot heq

/-- One more variable without a clash adds what it gives alone. -/
theorem Together.concat {env : Environment} {a : String × String} {l la : Layout}
    (h : Together env l) (hclash : ∀ b ∈ env, ¬Variable.Clash b a)
    (ha : Variable.alone? a = some la) :
    Together (env ++ [a]) (la.laidOn l) := by
  obtain ⟨ws, hws, hput⟩ := Variable.of_alone? ha
  intro path s
  rw [Layout.laidOn, Option.or_eq_some_iff]
  constructor
  · rintro (hs | ⟨-, hs⟩)
    · exact .inr ⟨a, by simp, la, ha, hs⟩
    · rcases (h path s).mp hs with heq | ⟨b, hb, hgiven⟩
      · exact .inl heq
      · exact .inr ⟨b, List.mem_append_left _ hb, hgiven⟩
  · -- What both give at a path is the same.
    have hbehind : l path = some s → la path = some s ∨ la path = none ∧ l path = some s := by
      intro hs
      cases hla : la path with
      | none => exact .inr ⟨rfl, hs⟩
      | some t =>
        left
        rcases hput path t hla with ⟨w, hw, hat⟩ | ⟨rfl, rfl⟩
        · rw [h.unique hclash hws hw hat hs]
        · rw [← (h [] .mapping).mpr (.inl ⟨rfl, rfl⟩), hs]
    rintro (hroot | ⟨b, hb, lb, hlb, hs⟩)
    · exact hbehind ((h path s).mpr (.inl hroot))
    · rcases List.mem_append.mp hb with hb | hb
      · exact hbehind ((h path s).mpr (.inr ⟨b, hb, lb, hlb, hs⟩))
      · rw [List.mem_singleton.mp hb, ha] at hlb
        exact .inl (Option.some.inj hlb ▸ hs)

/-- One more variable without a clash gives settings if it does so alone. -/
theorem Together.ofEnvironment_concat {env : Environment} {a : String × String} {es : Entries}
    (h : Together env es.layout) (hclash : ∀ b ∈ env, ¬Variable.Clash b a)
    (hes : ofEnvironment env = .ok es) :
    (ofEnvironment (env ++ [a])).toOption.map Entries.layout =
      (Variable.alone? a).map (·.laidOn es.layout) := by
  rw [Config.ofEnvironment_concat, hes]
  exact Variable.add_layout_of_clear fun ws hws w hw path s s' hs hs' => h.unique hclash hws hw hs hs'

theorem exists_of_ofEnvironment_concat {env : Environment} {a : String × String} {es' : Entries}
    (h : ofEnvironment (env ++ [a]) = .ok es') :
    ∃ es, ofEnvironment env = .ok es ∧ Variable.add es a = .ok es' := by
  rw [ofEnvironment_concat] at h
  exact Json.ok_of_bind h

/-- **Variables without a clash** give settings if each of them alone does. At each path stands then
what any of them gives there alone. -/
theorem ofEnvironment_layout {env : Environment} (h : env.Pairwise fun a b => ¬Variable.Clash a b) :
    ((∃ es, ofEnvironment env = .ok es) ↔ ∀ a ∈ env, ∃ l, Variable.alone? a = some l) ∧
      ∀ es, ofEnvironment env = .ok es → Together env es.layout := by
  induction env using List.reverseRecOn with
  | nil =>
    refine ⟨⟨fun _ a ha => absurd ha List.not_mem_nil, fun _ => ⟨[], rfl⟩⟩, fun es hes path s => ?_⟩
    rw [← Except.ok.inj hes]
    cases path with
    | nil => simp [Entries.layout_nil, eq_comm]
    | cons key keys => simp [Entries.layout_empty]
  | append_singleton env a ih =>
    obtain ⟨henv, -, hlast⟩ := List.pairwise_append.mp h
    have hclash : ∀ b ∈ env, ¬Variable.Clash b a := fun b hb =>
      hlast b hb a (List.mem_singleton_self a)
    obtain ⟨hsuccess, htogether⟩ := ih henv
    have hstep := fun es hes => (htogether es hes).ofEnvironment_concat hclash hes
    constructor
    · rw [List.forall_mem_append, List.forall_mem_singleton, ← hsuccess]
      constructor
      · rintro ⟨es', hes'⟩
        obtain ⟨es, hes, -⟩ := exists_of_ofEnvironment_concat hes'
        have hlayout := hstep es hes
        rw [hes'] at hlayout
        obtain ⟨l, hl, -⟩ := Option.map_eq_some_iff.mp hlayout.symm
        exact ⟨⟨es, hes⟩, l, hl⟩
      · rintro ⟨⟨es, hes⟩, l, hl⟩
        have hlayout := hstep es hes
        rw [hl] at hlayout
        obtain ⟨es', hes', -⟩ := Option.map_eq_some_iff.mp hlayout
        exact ⟨es', (toOption_eq_some _).mp hes'⟩
    · intro es' hes'
      obtain ⟨es, hes, -⟩ := exists_of_ofEnvironment_concat hes'
      have hlayout := hstep es hes
      rw [hes'] at hlayout
      obtain ⟨l, hl, heq⟩ := Option.map_eq_some_iff.mp hlayout.symm
      rw [← heq]
      exact (htogether es hes).concat hclash hl

theorem Variable.add_tidy {settings es : Entries} {a : String × String} (hsettings : settings.Tidy)
    (h : add settings a = .ok es) : es.Tidy := by
  unfold add at h
  cases hpath : path? a.1 with
  | none =>
    rw [hpath] at h
    exact Except.ok.inj h ▸ hsettings
  | some path =>
    simp only [hpath] at h
    cases hv : value a.2 with
    | error e => rw [hv] at h; cases h
    | ok v =>
      rw [hv] at h
      change rejecting
        (overlayEntry .environment settings (.text (".".intercalate path), v)) = .ok es at h
      cases hnext : overlayEntry .environment settings (.text (".".intercalate path), v) with
      | error e => rw [hnext] at h; cases h
      | ok next =>
        rw [hnext] at h
        exact Except.ok.inj h ▸ overlayEntry_tidy .environment _ settings next hsettings hnext

theorem ofEnvironment_tidy {env : Environment} {es : Entries} (h : ofEnvironment env = .ok es) :
    es.Tidy := by
  induction env using List.reverseRecOn generalizing es with
  | nil => exact Except.ok.inj h ▸ Entries.tidy_nil
  | append_singleton env a ih =>
    obtain ⟨settings, henv, hadd⟩ := exists_of_ofEnvironment_concat h
    exact Variable.add_tidy (ih henv) hadd

theorem Together.layout_eq {env env' : Environment} {l l' : Layout} (hperm : env.Perm env')
    (h : Together env l) (h' : Together env' l') : l = l' := by
  funext path
  refine Option.ext fun s => ?_
  rw [h path s, h' path s]
  simp only [hperm.mem_iff]

/-- **The order of variables does not matter** if no two of them clash: they give mappings that differ
in the order of entries only, or fail, in any order. -/
theorem ofEnvironment_perm {env env' : Environment} (hperm : env.Perm env')
    (hclash : env.Pairwise fun a b => ¬Variable.Clash a b) :
    (∃ es es', ofEnvironment env = .ok es ∧ ofEnvironment env' = .ok es' ∧ es.Reordered es') ∨
      ∃ e e', ofEnvironment env = .error e ∧ ofEnvironment env' = .error e' := by
  have hclash' : env'.Pairwise fun a b => ¬Variable.Clash a b :=
    (hperm.pairwise_iff fun hno hclash => hno hclash.symm).mp hclash
  obtain ⟨hsuccess, htogether⟩ := ofEnvironment_layout hclash
  obtain ⟨hsuccess', htogether'⟩ := ofEnvironment_layout hclash'
  have hiff : (∃ es, ofEnvironment env = .ok es) ↔ ∃ es, ofEnvironment env' = .ok es := by
    rw [hsuccess, hsuccess']
    simp only [hperm.mem_iff]
  cases hes : ofEnvironment env with
  | ok es =>
    obtain ⟨es', hes'⟩ := hiff.mp ⟨es, hes⟩
    have hlayout := (htogether es hes).layout_eq hperm (htogether' es' hes')
    exact .inl ⟨es, es', rfl, hes', Entries.reordered_of_layout_eq (ofEnvironment_tidy hes)
      (ofEnvironment_tidy hes') hlayout⟩
  | error e =>
    cases hes' : ofEnvironment env' with
    | ok es' =>
      obtain ⟨es, hok⟩ := hiff.mpr ⟨es', hes'⟩
      rw [hes] at hok
      cases hok
    | error e' => exact .inr ⟨e, e', rfl, rfl⟩

/-- A section and two of its settings, in two orders. -/
theorem ofEnvironment_perm_engine :
    let env : Environment := [("CHATORG__ENGINE", "{history_limit: 3}"),
      ("CHATORG__ENGINE__RESPONSE_DELAY_MS", "5"), ("CHATORG__LOGGING__LEVEL", "DEBUG")]
    (env.Pairwise fun a b => ¬Variable.Clash a b) ∧ ∃ es es', ofEnvironment env = .ok es ∧
      ofEnvironment env.reverse = .ok es' ∧ es.Reordered es' := by
  intro env
  have hengine : Variable.outlines? ("CHATORG__ENGINE", "{history_limit: 3}") =
      some [(["engine"], false), (["engine", "history_limit"], true)] := by
    decide +kernel
  have hdelay : Variable.outlines? ("CHATORG__ENGINE__RESPONSE_DELAY_MS", "5") =
      some [(["engine", "response_delay_ms"], true)] := by
    decide +kernel
  have hlevel : Variable.outlines? ("CHATORG__LOGGING__LEVEL", "DEBUG") =
      some [(["logging", "level"], true)] := by
    decide +kernel
  have hclash : env.Pairwise fun a b => ¬Variable.Clash a b := by
    refine .cons ?_ (.cons ?_ (.cons (List.forall_mem_nil _) .nil))
    · rw [List.forall_mem_cons, List.forall_mem_singleton]
      exact ⟨Variable.not_clash_of_outlines hengine hdelay (by decide),
        Variable.not_clash_of_outlines hengine hlevel (by decide)⟩
    · rw [List.forall_mem_singleton]
      exact Variable.not_clash_of_outlines hdelay hlevel (by decide)
  refine ⟨hclash, ?_⟩
  rcases ofEnvironment_perm (List.reverse_perm env).symm hclash with hok | ⟨e, -, he, -⟩
  · exact hok
  · have hsome : (ofEnvironment env).isOk = true := by decide +kernel
    rw [he] at hsome
    cases hsome

/-- A setting and its section as a mapping: the variable that comes last wins. -/
theorem ofEnvironment_two_orders :
    let setting := ("CHATORG__ENGINE__HISTORY_LIMIT", "5")
    let engine := ("CHATORG__ENGINE", "{history_limit: 3}")
    let limit (n : Int) : Entries := [(.text "engine", .map [(.text "history_limit", .int n)])]
    Variable.path? setting.1 = some ["engine", "history_limit"] ∧
      Variable.path? engine.1 = some ["engine"] ∧
      ofEnvironment [setting, engine] = .ok (limit 3) ∧
      ofEnvironment [engine, setting] = .ok (limit 5) ∧ ¬(limit 3).Reordered (limit 5) := by
  intro setting engine limit
  have hthree : ofEnvironment [setting, engine] = .ok (limit 3) := by decide +kernel
  have hfive : ofEnvironment [engine, setting] = .ok (limit 5) := by decide +kernel
  refine ⟨by decide +kernel, by decide +kernel, hthree, hfive, fun h => ?_⟩
  have hlimits := congrFun (h.layout_eq (ofEnvironment_tidy hthree)).2 ["engine", "history_limit"]
  have hlimit : ∀ n, (limit n).layout ["engine", "history_limit"] = some (.leaf (.int n)) := fun n => by
    simp [limit, Entries.layout_cons, Value.at?, Value.spot]
  rw [hlimit, hlimit] at hlimits
  cases hlimits

end Config

end FolderTalk
