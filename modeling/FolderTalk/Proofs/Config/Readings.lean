import FolderTalk.Proofs.Config.Contents

/-!
# What a checked mapping says of each setting

A mapping that makes up a configuration has, at the path of each setting, a value that passes the
check of the setting, or nothing, and then the setting has its usual value.

* `Setting.Reads` : what a setting is where something stands, or nothing;
* `check_reads` : each setting of a configuration is what stands at its path.
-/

namespace FolderTalk

open Schema

namespace Config

/-- A setting comes from what stands at its path: from a value, or else it is the usual one. -/
def Setting.Reads (s : Setting) (c : Config) : Option Spot → Prop
  | none => s.of c = s.of {}
  | some (.leaf v) => s.check v = .valid (s.of c)
  | some .mapping => False

/-- What stands at a path decides on the setting. -/
theorem Setting.Reads.unique {s : Setting} {c c' : Config} {spot : Option Spot} (h : s.Reads c spot)
    (h' : s.Reads c' spot) : s.of c = s.of c' := by
  cases spot with
  | none => exact h.trans h'.symm
  | some spot =>
    cases spot with
    | mapping => exact h.elim
    | leaf v => exact Checked.valid.inj (h.symm.trans h')

section Fields
variable {α : Type} {es : Entries} {name : String} {absent a : α} {chk : Value → Checked α}

theorem valid_of_closed {fields : List String} {x : Checked α} (h : closed es fields x = .valid a) :
    x = .valid a := by
  unfold closed at h
  split at h
  · exact h
  · cases x <;> cases h

/-- A field is absent, or its value is checked. -/
theorem optionalField_cases (h : optionalField es name absent chk = .valid a) :
    es.get? name = none ∧ a = absent ∨ ∃ v, es.get? name = some v ∧ chk v = .valid a := by
  unfold optionalField at h
  cases hget : es.get? name with
  | none =>
    rw [hget] at h
    exact .inl ⟨rfl, (Checked.valid.inj h).symm⟩
  | some v =>
    rw [hget] at h
    exact .inr ⟨v, rfl, Checked.under_eq_valid_iff.mp h⟩

theorem record_cases {check : Entries → Checked α} {v : Value} (h : record name check v = .valid a) :
    ∃ es, v = .map es ∧ check es = .valid a := by
  cases v with
  | map es => exact ⟨es, rfl, h⟩
  | _ => cases h

end Fields

/-! ## Sections and their fields -/

theorem session_fields {v : Value} {a : SessionSettings} (h : SessionSettings.check v = .valid a) :
    ∃ inner, v = .map inner ∧ optionalField inner "name" "default" text = .valid a.name ∧
      optionalField inner "state_dir" "~/.chatorg/sessions" text = .valid a.stateDir := by
  obtain ⟨inner, rfl, h⟩ := record_cases h
  have hfields := valid_of_closed h
  simp only [Checked.app_eq_valid_iff, Checked.valid.injEq] at hfields
  obtain ⟨_, dir, ⟨_, name, rfl, hname, rfl⟩, hdir, rfl⟩ := hfields
  exact ⟨inner, rfl, hname, hdir⟩

theorem engine_fields {v : Value} {a : EngineSettings} (h : EngineSettings.check v = .valid a) :
    ∃ inner, v = .map inner ∧
      optionalField inner "history_limit" History.Limit.usual positive = .valid a.historyLimit ∧
      optionalField inner "response_delay_ms" 600 natural = .valid a.responseDelayMs ∧
      optionalField inner "folder_colors" Palette.builtIn (listOf text) = .valid a.folderColors := by
  obtain ⟨inner, rfl, h⟩ := record_cases h
  have hfields := valid_of_closed h
  simp only [Checked.app_eq_valid_iff, Checked.valid.injEq] at hfields
  obtain ⟨_, colors, ⟨_, delay, ⟨_, limit, rfl, hlimit, rfl⟩, hdelay, rfl⟩, hcolors, rfl⟩ := hfields
  exact ⟨inner, rfl, hlimit, hdelay, hcolors⟩

theorem logging_fields {v : Value} {a : LoggingSettings} (h : LoggingSettings.check v = .valid a) :
    ∃ inner, v = .map inner ∧ optionalField inner "level" "WARNING" text = .valid a.level ∧
      optionalField inner "max_size_mb" 10 integer = .valid a.maxSizeMb ∧
      optionalField inner "backup_count" 5 integer = .valid a.backupCount := by
  obtain ⟨inner, rfl, h⟩ := record_cases h
  have hfields := valid_of_closed h
  simp only [Checked.app_eq_valid_iff, Checked.valid.injEq] at hfields
  obtain ⟨_, count, ⟨_, size, ⟨_, level, rfl, hlevel, rfl⟩, hsize, rfl⟩, hcount, rfl⟩ := hfields
  exact ⟨inner, rfl, hlevel, hsize, hcount⟩

theorem cli_fields {v : Value} {a : CliSettings} (h : CliSettings.check v = .valid a) :
    ∃ inner, v = .map inner ∧
      optionalField inner "quiet_default" false boolean = .valid a.quietDefault ∧
      optionalField inner "transcript_limit" 20 integer = .valid a.transcriptLimit := by
  obtain ⟨inner, rfl, h⟩ := record_cases h
  have hfields := valid_of_closed h
  simp only [Checked.app_eq_valid_iff, Checked.valid.injEq] at hfields
  obtain ⟨_, limit, ⟨_, quiet, rfl, hquiet, rfl⟩, hlimit, rfl⟩ := hfields
  exact ⟨inner, rfl, hquiet, hlimit⟩

/-- A setting of a section that is absent, or that is a field of it. -/
theorem Setting.reads_section {α : Type} {s : Setting} {c : Config} {es : Entries}
    {chk : Value → Checked α} {absent a : α}
    (h : optionalField es s.section.name absent chk = .valid a)
    (usual : a = absent → s.of c = s.of {})
    (given : ∀ v, chk v = .valid a → ∃ inner, v = .map inner ∧
      optionalField inner s.name (s.of {}) s.check = .valid (s.of c)) :
    s.Reads c (es.layout s.path) := by
  rw [Setting.path, Entries.layout_cons]
  rcases optionalField_cases h with ⟨hnone, heq⟩ | ⟨v, hv, hcheck⟩
  · rw [hnone]
    exact usual heq
  · obtain ⟨inner, rfl, hfield⟩ := given v hcheck
    rw [hv, Option.bind_some]
    show s.Reads c (Entries.layout inner [s.name])
    rw [Entries.layout_cons]
    rcases optionalField_cases hfield with ⟨hnone, hof⟩ | ⟨w, hw, hcheck⟩
    · rw [hnone]
      exact hof
    · rw [hw, Option.bind_some, Value.at?, Value.spot_of_leaf (Setting.ne_map_of_check hcheck)]
      exact hcheck

/-- **Each setting of a configuration** is what stands at its path in the mapping that was checked. -/
theorem check_reads {es : Entries} {c : Config} (h : check (.map es) = .valid c) (s : Setting) :
    s.Reads c (es.layout s.path) := by
  have hsections := valid_of_closed (show closed es _ _ = _ from h)
  simp only [Checked.app_eq_valid_iff, Checked.valid.injEq] at hsections
  obtain ⟨_, cli, ⟨_, logging, ⟨_, engine, ⟨_, session, rfl, hsession, rfl⟩, hengine, rfl⟩, hlogging,
    rfl⟩, hcli, rfl⟩ := hsections
  cases s with
  | sessionName =>
    refine Setting.reads_section (s := .sessionName) hsession (by rintro rfl; rfl) fun v hv => ?_
    obtain ⟨inner, hmap, h, -⟩ := session_fields hv
    exact ⟨inner, hmap, h⟩
  | stateDir =>
    refine Setting.reads_section (s := .stateDir) hsession (by rintro rfl; rfl) fun v hv => ?_
    obtain ⟨inner, hmap, -, h⟩ := session_fields hv
    exact ⟨inner, hmap, h⟩
  | historyLimit =>
    refine Setting.reads_section (s := .historyLimit) hengine (by rintro rfl; rfl) fun v hv => ?_
    obtain ⟨inner, hmap, h, -, -⟩ := engine_fields hv
    exact ⟨inner, hmap, h⟩
  | responseDelayMs =>
    refine Setting.reads_section (s := .responseDelayMs) hengine (by rintro rfl; rfl) fun v hv => ?_
    obtain ⟨inner, hmap, -, h, -⟩ := engine_fields hv
    exact ⟨inner, hmap, h⟩
  | folderColors =>
    refine Setting.reads_section (s := .folderColors) hengine (by rintro rfl; rfl) fun v hv => ?_
    obtain ⟨inner, hmap, -, -, h⟩ := engine_fields hv
    exact ⟨inner, hmap, h⟩
  | level =>
    refine Setting.reads_section (s := .level) hlogging (by rintro rfl; rfl) fun v hv => ?_
    obtain ⟨inner, hmap, h, -, -⟩ := logging_fields hv
    exact ⟨inner, hmap, h⟩
  | maxSizeMb =>
    refine Setting.reads_section (s := .maxSizeMb) hlogging (by rintro rfl; rfl) fun v hv => ?_
    obtain ⟨inner, hmap, -, h, -⟩ := logging_fields hv
    exact ⟨inner, hmap, h⟩
  | backupCount =>
    refine Setting.reads_section (s := .backupCount) hlogging (by rintro rfl; rfl) fun v hv => ?_
    obtain ⟨inner, hmap, -, -, h⟩ := logging_fields hv
    exact ⟨inner, hmap, h⟩
  | quietDefault =>
    refine Setting.reads_section (s := .quietDefault) hcli (by rintro rfl; rfl) fun v hv => ?_
    obtain ⟨inner, hmap, h, -⟩ := cli_fields hv
    exact ⟨inner, hmap, h⟩
  | transcriptLimit =>
    refine Setting.reads_section (s := .transcriptLimit) hcli (by rintro rfl; rfl) fun v hv => ?_
    obtain ⟨inner, hmap, -, h⟩ := cli_fields hv
    exact ⟨inner, hmap, h⟩

end Config

end FolderTalk
