import FolderTalk.Proofs.Config.Assigning
import FolderTalk.Proofs.Config.Landing

/-!
# Saving and loading a configuration

A configuration is saved as a mapping with a value for each setting, below a header of comments.
Loaded over any defaults it wins setting by setting, so that nothing of the defaults is left.

* `resolveOver_toValue` : a whole configuration over any defaults;
* `save_resolve` : saving and loading.
-/

namespace FolderTalk

open Schema Config

/-! ## A whole configuration -/

namespace Config

/-- **A configuration over other defaults**: all settings are those of the configuration. -/
theorem resolveOver_toValue (defaults c : Config) :
    resolveOver defaults (some c.toValue) none none = .ok c := by
  have hassigned : assignedByLayer? (some c.toValue) =
      some (Setting.all.map fun s => (s, s.written (s.of c))) := by
    rw [toValue, entries_eq_tree]
    exact assignedByAll?_sections (fun s => Setting.ne_map_of_check (s.check_written (s.of c)))
      (fun sec s => Setting.section_of_mem) Section.all
  rw [resolveOver_eq_ok_iff defaults hassigned rfl rfl]
  intro s
  have hmem : s ∈ Setting.all := by cases s <;> decide
  simp only [List.append_nil, last?_map_of_mem hmem, Option.getD_some, s.check_written]

end Config

namespace ConfigFile

variable {f : ConfigFile} {es : Entries} {stamp body : String}

/-! ## Saving and loading -/

/-- **Saving a configuration and loading it gives it back**, whatever the file held before and
whenever it is saved, provided that what YAML writes of it is read as what was written. And whatever
the defaults are, a whole configuration over them makes up itself. -/
theorem save_resolve (f : ConfigFile) :
    (∀ (c : Config) (body : String), OneLine (f.stamp (f.saves + 1)) →
      Yaml.write c.entries = .ok body → Yaml.read body = .ok c.toValue →
      (f.save c.entries).2 = none ∧ (f.save c.entries).1.ensure.resolve none none = .ok c) ∧
    ∀ defaults c : Config, resolveOver defaults (some c.toValue) none none = .ok c := by
  refine ⟨fun c body hstamp hwrite hread => ?_, resolveOver_toValue⟩
  obtain ⟨hsaved, htext⟩ := text_save f hwrite
  have hentries : (f.save c.entries).1.entries = .ok c.entries := by
    rw [entries_saved hstamp hwrite htext]
    unfold parse
    rw [hread]
    rfl
  rw [ensure_eq_self (by rw [htext]; rfl)]
  exact ⟨hsaved, resolve_alone_iff.mpr ⟨_, hentries, resolveOver_toValue {} c⟩⟩

/-- Colours that look like a comment and a number come back from a file that held something else. -/
theorem save_resolve_colors :
    let f : ConfigFile := { text := some "- 1\n", stamp := fun _ => "2024-05-01T10:00:00Z" }
    let c : Config := { engine := { folderColors := ["# Last updated: never", "7"] } }
    OneLine (f.stamp 1) ∧ (∃ body, Yaml.write c.entries = .ok body ∧ Yaml.read body = .ok c.toValue) ∧
      (f.save c.entries).1.ensure.resolve none none = .ok c ∧
      resolveOver { cli := { transcriptLimit := 3 } } (some c.toValue) none none = .ok c := by
  intro f c
  have hstamp : OneLine (f.stamp 1) := by decide
  let body : List Char := Yaml.unlines (["session:", "  name: default",
    "  state_dir: ~/.chatorg/sessions", "engine:", "  history_limit: 20", "  response_delay_ms: 600",
    "  folder_colors:", "  - '# Last updated: never'", "  - '7'", "logging:", "  level: WARNING",
    "  max_size_mb: 10", "  backup_count: 5", "cli:", "  quiet_default: false",
    "  transcript_limit: 20"].map String.toList)
  have hwrite : Yaml.write c.entries = .ok (String.ofList body) := by
    rw [Yaml.write_of_isWritable (by decide +kernel)]
    have htext : ((Yaml.writeNode {} none false (.map c.entries)).indent 0).text.reverse = body := by
      decide +kernel
    rw [htext]
  have hread : Yaml.read (String.ofList body) = .ok c.toValue := by
    rw [Yaml.read, Yaml.tokens_eq (by decide +kernel)]
    decide +kernel
  obtain ⟨hsaved, hdefaults⟩ := save_resolve f
  exact ⟨hstamp, ⟨_, hwrite, hread⟩, (hsaved c _ hstamp hwrite hread).2, hdefaults _ c⟩

end ConfigFile

end FolderTalk
