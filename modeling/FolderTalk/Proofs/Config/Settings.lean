import FolderTalk.Config.Layers
import FolderTalk.Proofs.Data.Returning
import Mathlib.Logic.Function.Basic

/-!
# Settings

The settings of a configuration one by one: each has a path of a section and a name, a type, and a
check of its own. A configuration is nothing but a value for each setting, and a mapping that holds
one free value for each setting is checked setting by setting.

* `Setting`, `Setting.path`, `Setting.check`, `Setting.of` : the settings;
* `tree` : the mapping with a value for each setting, in the order in which they are written;
* `check_tree_iff` : such a mapping is checked setting by setting;
* `entries_eq_tree`, `Setting.check_written` : configurations are written as such mappings, and
  each of their settings is checked back.
-/

namespace FolderTalk

open Schema Json

namespace Config

/-- The sections. -/
inductive Section where
  | session | engine | logging | cli
  deriving DecidableEq, Repr

/-- The settings of all sections. -/
inductive Setting where
  | sessionName | stateDir
  | historyLimit | responseDelayMs | folderColors
  | level | maxSizeMb | backupCount
  | quietDefault | transcriptLimit
  deriving DecidableEq, Repr

namespace Section

def all : List Section := [session, engine, logging, cli]

def name : Section → String
  | session => "session"
  | engine => "engine"
  | logging => "logging"
  | cli => "cli"

def settings : Section → List Setting
  | session => [.sessionName, .stateDir]
  | engine => [.historyLimit, .responseDelayMs, .folderColors]
  | logging => [.level, .maxSizeMb, .backupCount]
  | cli => [.quietDefault, .transcriptLimit]

theorem name_injective : Function.Injective name := by
  intro x y h
  cases x <;> cases y <;> first | rfl | exact absurd h (by decide)

theorem mem_all (sec : Section) : sec ∈ all := by
  cases sec <;> decide

end Section

namespace Setting

def all : List Setting := Section.all.flatMap Section.settings

def «section» : Setting → Section
  | sessionName | stateDir => .session
  | historyLimit | responseDelayMs | folderColors => .engine
  | level | maxSizeMb | backupCount => .logging
  | quietDefault | transcriptLimit => .cli

def name : Setting → String
  | sessionName => "name"
  | stateDir => "state_dir"
  | historyLimit => "history_limit"
  | responseDelayMs => "response_delay_ms"
  | folderColors => "folder_colors"
  | level => "level"
  | maxSizeMb => "max_size_mb"
  | backupCount => "backup_count"
  | quietDefault => "quiet_default"
  | transcriptLimit => "transcript_limit"

/-- What a setting is. -/
@[reducible] def Content : Setting → Type
  | sessionName | stateDir | level => String
  | historyLimit => History.Limit
  | responseDelayMs => Nat
  | folderColors => List String
  | maxSizeMb | backupCount | transcriptLimit => Int
  | quietDefault => Bool

/-- The check of a setting. -/
def check : (s : Setting) → Value → Checked s.Content
  | sessionName | stateDir | level => text
  | historyLimit => positive
  | responseDelayMs => natural
  | folderColors => listOf text
  | maxSizeMb | backupCount | transcriptLimit => integer
  | quietDefault => boolean

/-- A setting of a configuration. -/
def of : (s : Setting) → Config → s.Content
  | sessionName, c => c.session.name
  | stateDir, c => c.session.stateDir
  | historyLimit, c => c.engine.historyLimit
  | responseDelayMs, c => c.engine.responseDelayMs
  | folderColors, c => c.engine.folderColors
  | level, c => c.logging.level
  | maxSizeMb, c => c.logging.maxSizeMb
  | backupCount, c => c.logging.backupCount
  | quietDefault, c => c.cli.quietDefault
  | transcriptLimit, c => c.cli.transcriptLimit

/-- A setting as it is written. -/
def written : (s : Setting) → s.Content → Value
  | sessionName, a | stateDir, a | level, a => .text a
  | historyLimit, a => .int a.val
  | responseDelayMs, (a : Nat) => .int a
  | folderColors, a => .list (a.map .text)
  | maxSizeMb, a | backupCount, a | transcriptLimit, a => .int a
  | quietDefault, a => .bool a

/-- The section and the name of a setting. -/
def path (s : Setting) : List String := [s.section.name, s.name]

theorem mem_settings (s : Setting) : s ∈ s.section.settings := by
  cases s <;> decide

theorem section_of_mem {s : Setting} {sec : Section} (h : s ∈ sec.settings) : s.section = sec := by
  cases sec <;> simp only [Section.settings, List.mem_cons, List.not_mem_nil, or_false] at h <;>
    rcases h with rfl | rfl | rfl <;> rfl

theorem name_injective : Function.Injective name := by
  intro s t h
  cases s <;> cases t <;> first | rfl | exact absurd h (by decide)

theorem check_written (s : Setting) (a : s.Content) : s.check (s.written a) = .valid a := by
  cases s with
  | folderColors => exact returns_text.itemsFrom_map 0 a
  | historyLimit =>
    obtain ⟨n, hn⟩ := a
    simp only [check, written, positive, integer, Int.natCast_pos, hn]
    rfl
  | responseDelayMs =>
    simp [check, written, natural, integer]
  | _ => rfl

end Setting

/-- The configuration with the given settings. -/
def ofSettings (value : (s : Setting) → s.Content) : Config where
  session := ⟨value .sessionName, value .stateDir⟩
  engine := ⟨value .historyLimit, value .responseDelayMs, value .folderColors⟩
  logging := ⟨value .level, value .maxSizeMb, value .backupCount⟩
  cli := ⟨value .quietDefault, value .transcriptLimit⟩

theorem of_ofSettings (value : (s : Setting) → s.Content) (s : Setting) :
    s.of (ofSettings value) = value s := by
  cases s <;> rfl

end Config

/-! ## One value for each key -/

namespace Entries

variable {α : Type} {key : α → String} {value : α → Value} {as : List α} {a : α}

theorem get?_map_of_mem (hkey : Function.Injective key) (ha : a ∈ as) :
    Entries.get? (as.map fun b => (.text (key b), value b)) (key a) = some (value a) := by
  induction as with
  | nil => exact absurd ha List.not_mem_nil
  | cons b as ih =>
    unfold Entries.get? Entries.find? at ih ⊢
    rw [List.map_cons, List.find?_cons]
    simp only [same_text]
    by_cases hab : a = b
    · subst hab
      simp
    · have hne : (key a == key b) = false := beq_eq_false_iff_ne.mpr fun h => hab (hkey h)
      rw [hne]
      exact ih ((List.mem_cons.mp ha).resolve_left hab)

theorem set_map_of_mem [DecidableEq α] (hkey : Function.Injective key) (hnodup : as.Nodup)
    (ha : a ∈ as) (v : Value) :
    Entries.set (as.map fun b => (.text (key b), value b)) (key a) v =
      as.map fun b => (.text (key b), Function.update value a v b) := by
  induction as with
  | nil => exact absurd ha List.not_mem_nil
  | cons b as ih =>
    obtain ⟨hb, hnodup⟩ := List.nodup_cons.mp hnodup
    unfold Entries.set at ih ⊢
    rw [List.map_cons, List.map_cons, Entries.put, same_text]
    by_cases hab : a = b
    · subst hab
      rw [beq_self_eq_true, if_pos rfl, Function.update_self]
      congr 1
      apply List.map_congr_left
      intro c hc
      have hne : c ≠ a := fun h => hb (h ▸ hc)
      rw [Function.update_of_ne hne]
    · have hne : (key a == key b) = false := beq_eq_false_iff_ne.mpr fun h => hab (hkey h)
      rw [hne, Function.update_of_ne (fun h => hab h.symm),
        ih hnodup ((List.mem_cons.mp ha).resolve_left hab)]
      rfl

end Entries

namespace Schema

variable {α β : Type}

theorem Checked.app_eq_valid_iff {f : Checked (α → β)} {x : Checked α} {b : β} :
    f.app x = .valid b ↔ ∃ g a, f = .valid g ∧ x = .valid a ∧ b = g a := by
  constructor
  · exact valid_of_app
  · rintro ⟨g, a, rfl, rfl, rfl⟩
    rfl

theorem Checked.under_eq_valid_iff {step : Step} {x : Checked α} {a : α} :
    x.under step = .valid a ↔ x = .valid a := by
  constructor
  · exact valid_of_under
  · rintro rfl
    rfl

end Schema

namespace Config

/-! ## One free value for each setting -/

variable {v : Setting → Value}

/-- The entries of a section, with a value for each of its settings. -/
def fields (v : Setting → Value) (sec : Section) : Entries :=
  sec.settings.map fun s => (.text s.name, v s)

/-- The mapping with a value for each setting, in the order in which they are written. -/
def tree (v : Setting → Value) : Entries :=
  Section.all.map fun sec => (.text sec.name, .map (fields v sec))

theorem entries_eq_tree (c : Config) : c.entries = tree fun s => s.written (s.of c) := rfl

theorem get?_tree (sec : Section) : (tree v).get? sec.name = some (.map (fields v sec)) :=
  Entries.get?_map_of_mem Section.name_injective sec.mem_all

/-! ## Checks -/

theorem check_session_iff {c : SessionSettings} :
    SessionSettings.check (.map (fields v .session)) = .valid c ↔
      text (v .sessionName) = .valid c.name ∧ text (v .stateDir) = .valid c.stateDir := by
  obtain ⟨name, stateDir⟩ := c
  simp [SessionSettings.check, record, closed, unknownKeys, fields, Section.settings, Setting.name,
    optionalField, Entries.get?, Entries.find?, Checked.app_eq_valid_iff,
    Checked.under_eq_valid_iff]

theorem check_engine_iff {c : EngineSettings} :
    EngineSettings.check (.map (fields v .engine)) = .valid c ↔
      positive (v .historyLimit) = .valid c.historyLimit ∧
        natural (v .responseDelayMs) = .valid c.responseDelayMs ∧
        listOf text (v .folderColors) = .valid c.folderColors := by
  obtain ⟨historyLimit, responseDelayMs, folderColors⟩ := c
  simp [-Subtype.exists, EngineSettings.check, record, closed, unknownKeys, fields,
    Section.settings, Setting.name, optionalField, Entries.get?, Entries.find?, and_assoc,
    Checked.app_eq_valid_iff, Checked.under_eq_valid_iff]

theorem check_logging_iff {c : LoggingSettings} :
    LoggingSettings.check (.map (fields v .logging)) = .valid c ↔
      text (v .level) = .valid c.level ∧ integer (v .maxSizeMb) = .valid c.maxSizeMb ∧
        integer (v .backupCount) = .valid c.backupCount := by
  obtain ⟨level, maxSizeMb, backupCount⟩ := c
  simp [LoggingSettings.check, record, closed, unknownKeys, fields, Section.settings, Setting.name,
    optionalField, Entries.get?, Entries.find?, and_assoc, Checked.app_eq_valid_iff,
    Checked.under_eq_valid_iff]

theorem check_cli_iff {c : CliSettings} :
    CliSettings.check (.map (fields v .cli)) = .valid c ↔
      boolean (v .quietDefault) = .valid c.quietDefault ∧
        integer (v .transcriptLimit) = .valid c.transcriptLimit := by
  obtain ⟨quietDefault, transcriptLimit⟩ := c
  simp [-Bool.exists_bool, CliSettings.check, record, closed, unknownKeys, fields,
    Section.settings, Setting.name, optionalField, Entries.get?, Entries.find?,
    Checked.app_eq_valid_iff, Checked.under_eq_valid_iff]

theorem check_sections_iff {c : Config} :
    check (.map (tree v)) = .valid c ↔
      SessionSettings.check (.map (fields v .session)) = .valid c.session ∧
        EngineSettings.check (.map (fields v .engine)) = .valid c.engine ∧
        LoggingSettings.check (.map (fields v .logging)) = .valid c.logging ∧
        CliSettings.check (.map (fields v .cli)) = .valid c.cli := by
  obtain ⟨session, engine, logging, cli⟩ := c
  simp [check, record, closed, unknownKeys, tree, Section.all, Section.name, optionalField,
    Entries.get?, Entries.find?, and_assoc, Checked.app_eq_valid_iff, Checked.under_eq_valid_iff]

/-- **A mapping with a value for each setting** is checked setting by setting. -/
theorem check_tree_iff {c : Config} :
    check (.map (tree v)) = .valid c ↔ ∀ s : Setting, s.check (v s) = .valid (s.of c) := by
  rw [check_sections_iff, check_session_iff, check_engine_iff, check_logging_iff, check_cli_iff]
  constructor
  · rintro ⟨⟨hname, hdir⟩, ⟨hlimit, hdelay, hcolors⟩, ⟨hlevel, hsize, hcount⟩, hquiet, htranscript⟩ s
    cases s <;> assumption
  · intro h
    exact ⟨⟨h .sessionName, h .stateDir⟩,
      ⟨h .historyLimit, h .responseDelayMs, h .folderColors⟩,
      ⟨h .level, h .maxSizeMb, h .backupCount⟩, h .quietDefault, h .transcriptLimit⟩

end Config

end FolderTalk
