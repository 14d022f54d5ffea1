import FolderTalk.Proofs.Config.Landing
import FolderTalk.Proofs.Text.Divided

/-!
# Paths of keys

A dotted key is a path. It leads through a mapping as far as there are mappings on the way or
nothing at all; another value on the way blocks it, and then nothing can be changed at its end.

* `keyPath` : the path of a key, from which the key can be told;
* `Entries.leads` : whether a path leads through mappings;
* `changeAt_of_leads`, `changeAt_of_not_leads` : a change at the end of a path is made exactly if the
  path leads there.
-/

namespace FolderTalk

/-- Whether a path leads through mappings, or through nothing from some key on. -/
def Entries.leads : List String → Entries → Bool
  | [], _ => true
  | key :: keys, es =>
    match es.mappingAt? key with
    | none => false
    | some inner => leads keys inner

namespace Config

/-! ## Keys as paths -/

/-- The path of a key. -/
def keyPath (key : String) : List String := Text.divide "." key

theorem keyPath_eq (key : String) : keyPath key = (splitKey key).1 ++ [(splitKey key).2] := by
  have hlast := List.dropLast_concat_getLast (Text.divide_ne_nil key)
  show Text.divide "." key = (Text.divide "." key).dropLast ++ [(Text.divide "." key).getLastD ""]
  rw [List.getLastD_eq_getLast?, List.getLast?_eq_some_getLast (Text.divide_ne_nil key),
    Option.getD_some, hlast]

theorem keyPath_ne_nil (key : String) : keyPath key ≠ [] := Text.divide_ne_nil key

theorem keyPath_append (key rest : String) :
    keyPath (key ++ "." ++ rest) = keyPath key ++ keyPath rest :=
  Text.divide_append key rest

theorem keyPath_injective : Function.Injective keyPath := fun _ _ => Text.divide_injective

/-- A key whose path is that of another one after some keys. -/
theorem splitKey_of_keyPath_append {key rest : String} {keys : List String}
    (h : keyPath key = keys ++ keyPath rest) :
    splitKey key = (keys ++ (splitKey rest).1, (splitKey rest).2) := by
  rw [keyPath_eq, keyPath_eq, ← List.append_assoc] at h
  obtain ⟨hparents, hleaf⟩ := List.append_inj' h rfl
  exact Prod.ext hparents (List.singleton_inj.mp hleaf)

/-! ## Results without their errors -/

section Results
variable {α β ε : Type} (x : Except ε α)

theorem toOption_bind (k : α → Except ε β) :
    (x >>= k).toOption = x.toOption.bind fun a => (k a).toOption := by
  cases x <;> rfl

theorem toOption_map (k : α → β) : (x.map k).toOption = x.toOption.map k := by
  cases x <;> rfl

theorem toOption_eq_some {a : α} : x.toOption = some a ↔ x = .ok a := by
  cases x <;> simp [Except.toOption]

end Results

/-! ## Changes at the end of a path -/

theorem overlay_cons (layer : Layer) (target es : Entries) (e : Value × Value) :
    overlay layer target (e :: es) = overlayEntry layer target e >>= (overlay layer · es) := by
  rw [overlay]
  cases overlayEntry layer target e <;> rfl

variable {ε : Type} {refused refused' : String → ε} {change change' : Entries → Except ε Entries}

theorem changeAt_append (keys keys' : List String) (es : Entries) :
    changeAt refused change (keys ++ keys') es =
      changeAt refused (changeAt refused change keys') keys es := by
  induction keys generalizing es with
  | nil => rfl
  | cons key keys ih =>
    rw [List.cons_append, changeAt, changeAt]
    cases es.mappingAt? key with
    | none => rfl
    | some inner =>
      dsimp only
      rw [ih]

/-- Changes come to the same if they do wherever the rest of the path leads on. -/
theorem changeAt_of_leads {keys rest : List String}
    (h : ∀ es : Entries, es.leads rest → (change es).toOption = (change' es).toOption) {es : Entries}
    (hes : es.leads (keys ++ rest)) :
    (changeAt refused change keys es).toOption = (changeAt refused' change' keys es).toOption := by
  induction keys generalizing es with
  | nil => exact h es hes
  | cons key keys ih =>
    rw [List.cons_append, Entries.leads] at hes
    rw [changeAt, changeAt]
    cases hinner : es.mappingAt? key with
    | none => rfl
    | some inner =>
      simp only [hinner] at hes
      dsimp only
      rw [toOption_map, toOption_map, ih hes]

theorem changeAt_of_not_leads {keys : List String} {es : Entries} (h : es.leads keys = false) :
    ∃ key ∈ keys, changeAt refused change keys es = .error (refused key) := by
  induction keys generalizing es with
  | nil => cases h
  | cons key keys ih =>
    rw [Entries.leads] at h
    rw [changeAt]
    cases hinner : es.mappingAt? key with
    | none => exact ⟨key, List.mem_cons_self, rfl⟩
    | some inner =>
      simp only [hinner] at h
      obtain ⟨other, hother, hrefused⟩ := ih h
      exact ⟨other, List.mem_cons_of_mem _ hother, by dsimp only; rw [hrefused]; rfl⟩

end Config

end FolderTalk
