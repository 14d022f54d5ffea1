import FolderTalk.Proofs.Json.RoundTrip
import FolderTalk.Storage.Document

/-!
# What can be written

Whole numbers with too many digits have no text, and they are all that stops the writing of a value
that JSON text holds as it is.

* `Numeral.Fits` : a whole number has a text;
* `Fitting` : all whole numbers within a value have one;
* `spellable_of_storable`, `ofValue_came` : such a value is written, and any other is refused for the
  digits of a number, if it is not nested too deeply.
-/

namespace FolderTalk

/-- The whole number has no more digits than are turned into text. -/
def Numeral.Fits (n : Int) : Prop := n.natAbs < Nat.pow 10 Numeral.maxDigits

instance (n : Int) : Decidable (Numeral.Fits n) := inferInstanceAs (Decidable (_ < _))

namespace Json

/-- A leaf that has a text. -/
def FittingLeaf : Value → Prop
  | .int n => Numeral.Fits n
  | .null | .bool _ | .text _ => True
  | _ => False

/-- A value that has a text. -/
def Fitting (v : Value) : Prop := BuiltFrom FittingLeaf v

/-- Writing succeeds exactly on the condition, and is refused for the digits of a number
otherwise. -/
def WrittenIff {α : Type} (fits : Prop) (written : Except WriteError α) : Prop :=
  (fits ∧ ∃ a, written = .ok a) ∨ (¬ fits ∧ written = .error .tooManyDigits)

section Steps
variable {α β : Type} {p q : Prop} {x : Except WriteError α} {f : α → Except WriteError β}

theorem writtenIff_ok (a : α) : WrittenIff True (.ok a) := .inl ⟨trivial, a, rfl⟩

theorem WrittenIff.congr (h : WrittenIff p x) (hpq : p ↔ q) : WrittenIff q x := by
  rwa [WrittenIff, ← hpq]

/-- What is written in two steps ends well if both do. -/
theorem WrittenIff.bind (hx : WrittenIff p x) (hf : ∀ a, WrittenIff q (f a)) :
    WrittenIff (p ∧ q) (x >>= f) := by
  rcases hx with ⟨hp, a, rfl⟩ | ⟨hp, rfl⟩
  · rcases hf a with ⟨hq, hb⟩ | ⟨hq, hb⟩
    · exact .inl ⟨⟨hp, hq⟩, hb⟩
    · exact .inr ⟨fun h => hq h.2, hb⟩
  · exact .inr ⟨fun h => hp h.1, rfl⟩

theorem WrittenIff.map (hx : WrittenIff p x) (g : α → β) : WrittenIff p (x.map g) := by
  rcases hx with ⟨hp, a, rfl⟩ | ⟨hp, rfl⟩
  · exact .inl ⟨hp, g a, rfl⟩
  · exact .inr ⟨hp, rfl⟩

end Steps

theorem writtenIff_intText (n : Int) : WrittenIff (Numeral.Fits n) (intText n) := by
  unfold intText
  by_cases h : Numeral.Fits n
  · exact .inl ⟨h, _, if_pos h⟩
  · exact .inr ⟨h, if_neg h⟩

/-- The value is written at every level that leaves room for what it has inside, exactly if the
whole numbers within it have texts. -/
def Spellable (v : Value) : Prop :=
  ∀ level, level + depth v ≤ maxDepth → WrittenIff (Fitting v) (writeAt level v)

theorem writtenIff_items {vs : List Value} (h : ∀ v ∈ vs, Spellable v) {level : Nat}
    (hdepth : level + itemsDepth vs ≤ maxDepth) :
    WrittenIff (ItemsFrom FittingLeaf vs) (writeItems level vs) := by
  induction vs with
  | nil =>
    rw [writeItems]
    exact writtenIff_ok _
  | cons v vs ih =>
    obtain ⟨hv, hvs⟩ := List.forall_mem_cons.mp h
    rw [itemsDepth] at hdepth
    rw [writeItems]
    refine ((hv level (by omega)).bind
      fun item => (ih hvs (by omega)).bind fun rest => writtenIff_ok _).congr ?_
    rw [and_true, ItemsFrom, Fitting]

theorem writtenIff_entry {e : Value × Value} (hkey : ∃ s, e.1 = .text s) (h : Spellable e.2)
    {level : Nat} (hdepth : level + entryDepth e ≤ maxDepth) :
    WrittenIff (EntryFrom FittingLeaf e) (writeEntry level e) := by
  obtain ⟨k, v⟩ := e
  obtain ⟨s, rfl⟩ : ∃ s, k = .text s := hkey
  rw [writeEntry]
  refine ((writtenIff_ok (quote s)).bind
    fun key => (h level hdepth).bind fun value => writtenIff_ok _).congr ?_
  simp [EntryFrom, Fitting]

theorem writtenIff_entries {es : Entries} (hkeys : ∀ e ∈ es, ∃ s, e.1 = .text s)
    (h : ∀ e ∈ es, Spellable e.2) {level : Nat} (hdepth : level + entriesDepth es ≤ maxDepth) :
    WrittenIff (EntriesFrom FittingLeaf es) (writeEntries level es) := by
  induction es with
  | nil =>
    rw [writeEntries]
    exact writtenIff_ok _
  | cons e es ih =>
    obtain ⟨hkey, hkeys⟩ := List.forall_mem_cons.mp hkeys
    obtain ⟨he, hes⟩ := List.forall_mem_cons.mp h
    rw [entriesDepth] at hdepth
    rw [writeEntries]
    refine ((writtenIff_entry hkey he (by omega)).bind
      fun entry => (ih hkeys hes (by omega)).bind fun rest => writtenIff_ok _).congr ?_
    rw [and_true, EntriesFrom]

/-- **Writing a value** succeeds exactly if the whole numbers within it have texts. -/
theorem spellable_of_storable {v : Value} (hv : Storable v) : Spellable v := by
  refine BuiltFrom.induction (P := Spellable) ?_ ?_ ?_ v hv
  · intro v hleaf level _
    cases v with
    | int n => rw [writeAt]; exact writtenIff_intText n
    | null | bool _ | text _ => rw [writeAt]; exact writtenIff_ok _
    | _ => cases hleaf
  · intro vs h level hdepth
    cases vs with
    | nil =>
      rw [writeAt]
      exact writtenIff_ok _
    | cons v vs =>
      obtain ⟨hv, hvs⟩ := List.forall_mem_cons.mp h
      rw [depth, itemsDepth] at hdepth
      rw [writeAt, if_neg (by omega)]
      refine ((hv (level + 1) (by omega)).bind fun first =>
        (writtenIff_items hvs (by omega)).bind fun rest => writtenIff_ok _).congr ?_
      rw [and_true, Fitting, Fitting, BuiltFrom, ItemsFrom]
  · intro es hes h level hdepth
    have hkeys : ∀ e ∈ es, ∃ s, e.1 = .text s := fun e he => (entriesFrom_iff.mp hes.2 e he).1
    have hfitting : Fitting (.map es) ↔ EntriesFrom FittingLeaf es := and_iff_right hes.1
    cases es with
    | nil =>
      rw [writeAt]
      exact (writtenIff_ok _).congr (hfitting.trans (iff_of_true trivial trivial)).symm
    | cons e es =>
      obtain ⟨hkey, hkeys⟩ := List.forall_mem_cons.mp hkeys
      obtain ⟨he, htail⟩ := List.forall_mem_cons.mp h
      rw [depth, entriesDepth] at hdepth
      rw [writeAt, if_neg (by omega)]
      refine ((writtenIff_entry hkey he (by omega)).bind fun first =>
        (writtenIff_entries hkeys htail (by omega)).bind fun rest => writtenIff_ok _).congr ?_
      rw [and_true, hfitting, EntriesFrom]

end Json

/-- **The document of a value** that is not nested too deeply is made exactly if the whole numbers
within it have texts. -/
theorem Document.ofValue_came {v : Value} (hv : Json.Storable v)
    (hdepth : Json.depth v ≤ Json.maxDepth) :
    (Json.Fitting v ∧ ∃ doc, ofValue v = .ok doc) ∨
      (¬ Json.Fitting v ∧ ofValue v = .error .tooManyDigitsToWrite) := by
  have hwrite := (Json.spellable_of_storable hv 0 (by omega)).map String.ofList
  unfold ofValue Json.write
  rcases hwrite with ⟨hfits, s, hs⟩ | ⟨hno, hs⟩
  · rw [hs]
    exact .inl ⟨hfits, _, rfl⟩
  · rw [hs]
    exact .inr ⟨hno, rfl⟩

end FolderTalk
