import FolderTalk.Proofs.Session.Savable

/-!
# What was read can be saved

Numbers that are read have texts, so the parts that are made of them can be written again.

* `Accepts` : what a check makes of legible data has a property;
* `fits_of_gives` : a part that was made of legible data can be written;
* `Workbench.Linked.fits_of_saved` : so can a part that is saved already.
-/

namespace FolderTalk

open Schema Json

/-! ## Checks of legible data -/

/-- What the check makes of legible data has the property. -/
def Accepts {α : Type} (check : Value → Checked α) (P : α → Prop) : Prop :=
  ∀ v a, Legible v → check v = .valid a → P a

section Checks
variable {α : Type} {check : Value → Checked α} {P : α → Prop}

theorem accepts_integer : Accepts integer Numeral.Fits := by
  intro v n hv h
  refine fits_integer (fun m hm => ?_) h
  rw [hm] at hv
  exact hv

theorem Accepts.itemsFrom (h : Accepts check P) {n : Nat} {vs : List Value} {as : List α}
    (hvs : ∀ v ∈ vs, Legible v) (has : itemsFrom check n vs = .valid as) : ∀ a ∈ as, P a := by
  induction vs generalizing n as with
  | nil =>
    cases has
    exact List.forall_mem_nil _
  | cons v vs ih =>
    obtain ⟨hv, hvs⟩ := List.forall_mem_cons.mp hvs
    rw [Schema.itemsFrom] at has
    obtain ⟨g, bs, hg, hrest, rfl⟩ := valid_of_app has
    obtain ⟨b, hb, rfl⟩ := valid_of_map hg
    exact List.forall_mem_cons.mpr ⟨h v b hv (valid_of_under hb), ih hvs hrest⟩

theorem Accepts.list (h : Accepts check P) : Accepts (listOf check) fun as => ∀ a ∈ as, P a := by
  intro v as hv has
  cases v with
  | list items => exact h.itemsFrom (itemsFrom_iff.mp hv) has
  | _ => cases has

theorem legible_get? {es : Entries} {k : String} {v : Value} (hes : Legible (.map es))
    (h : es.get? k = some v) : Legible v := by
  obtain ⟨e, he, rfl⟩ := Option.map_eq_some_iff.mp h
  exact (entriesFrom_iff.mp hes.2 e (List.mem_of_find?_eq_some he)).2

theorem Accepts.required (h : Accepts check P) {es : Entries} {k : String} {a : α}
    (hes : Legible (.map es)) (ha : required es k check = .valid a) : P a := by
  unfold Schema.required at ha
  split at ha
  · next v hv => exact h v a (legible_get? hes hv) (valid_of_under ha)
  · cases ha

theorem Accepts.optionalField (h : Accepts check P) {es : Entries} {k : String} {absent a : α}
    (hes : Legible (.map es)) (habsent : P absent)
    (ha : optionalField es k absent check = .valid a) : P a := by
  unfold Schema.optionalField at ha
  split at ha
  · next v hv => exact h v a (legible_get? hes hv) (valid_of_under ha)
  · cases ha
    exact habsent

end Checks

theorem FileEntry.accepts : Accepts FileEntry.check fun f => Numeral.Fits f.id := by
  intro v f hv h
  cases v with
  | map es =>
    obtain ⟨_, folder, h₁, _, rfl⟩ := valid_of_app h
    obtain ⟨_, size, h₂, _, rfl⟩ := valid_of_app h₁
    obtain ⟨_, kind, h₃, _, rfl⟩ := valid_of_app h₂
    obtain ⟨_, name, h₄, _, rfl⟩ := valid_of_app h₃
    obtain ⟨_, id, h₅, hid, rfl⟩ := valid_of_app h₄
    cases h₅
    exact accepts_integer.required hv hid
  | _ => cases h

theorem Message.accepts : Accepts Message.check fun m => Numeral.Fits m.id := by
  intro v m hv h
  cases v with
  | map es =>
    obtain ⟨_, sender, h₁, _, rfl⟩ := valid_of_app h
    obtain ⟨_, text, h₂, _, rfl⟩ := valid_of_app h₁
    obtain ⟨_, id, h₃, hid, rfl⟩ := valid_of_app h₂
    cases h₃
    exact accepts_integer.required hv hid
  | _ => cases h

theorem Store.accepts : Accepts Store.check fun s => ∀ f ∈ s.files, Numeral.Fits f.id := by
  intro v s hv h
  cases v with
  | map es =>
    obtain ⟨_, folders, h₁, _, rfl⟩ := valid_of_app h
    obtain ⟨_, files, h₂, hfiles, rfl⟩ := valid_of_app h₁
    cases h₂
    exact FileEntry.accepts.list.optionalField hv (List.forall_mem_nil _) hfiles
  | _ => cases h

/-! ## The parts of a state -/

section Parts
variable {key : StateKey} {s : SessionState} {v : Value}

theorem Accepts.listPart {α : Type} {check : Value → Checked α} {P : α → Prop}
    (h : Accepts check P) {as : List α} (hv : Legible v) (has : listPart check v = .ok as) :
    ∀ a ∈ as, P a := by
  unfold FolderTalk.listPart at has
  split at has
  · next hcheck =>
    cases has
    exact h.list v _ hv hcheck
  · cases has

theorem fits_clamp (height : Int) : Numeral.Fits (Panel.clamp height) := by
  have hbounds : 300 ≤ Panel.clamp height ∧ Panel.clamp height ≤ 800 := by
    unfold Panel.clamp Panel.minHeight Panel.maxHeight
    omega
  have hpow : Nat.pow 10 3 = 1000 := by decide
  refine Numeral.fits_of_lt (k := 3) ?_ (by decide)
  omega

/-- **A part that was made of legible data** can be written. -/
theorem fits_of_gives (hv : Legible v) (h : Gives key v s) : s.Fits key := by
  cases key with
  | files => exact FileEntry.accepts.listPart hv h
  | messages => exact Message.accepts.listPart hv h
  | history => exact Store.accepts.listPart hv h
  | chatHeight =>
    obtain ⟨n, _, hn⟩ := h
    rw [SessionState.Fits, ← hn]
    exact fits_clamp n
  | folders | selectedFolder => trivial

theorem fits_of_same (hv : Legible v) (huse : Usable key v) (hsame : v.same (s.part key))
    (hkey : key ≠ .chatHeight) : s.Fits key := by
  -- The height is of no account for the other parts, so it may be taken to be within its bounds.
  have hgives : Gives key v ({ s with chatHeight := Panel.minHeight } : SessionState).recalled := by
    refine gives_of_same (keyed_of_legible hv) huse ?_ rfl
    cases key with
    | chatHeight => exact absurd rfl hkey
    | _ => exact hsame
  have hfits := fits_of_gives hv hgives
  cases key with
  | chatHeight => exact absurd rfl hkey
  | _ => exact hfits

end Parts

/-- A part that is saved can be written again. -/
theorem Workbench.Linked.fits_of_saved {w : Workbench} (h : w.Linked) {key : StateKey}
    (hsaved : w.Saved key) (hkey : key ≠ .chatHeight) : w.session.state.Fits key := by
  obtain ⟨v, hstored, hsame⟩ := hsaved
  obtain ⟨hholds, huse⟩ := h key v hstored
  exact fits_of_same hholds.legible huse hsame hkey

end FolderTalk
