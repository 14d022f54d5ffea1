import FolderTalk.CommandLine.Run
import FolderTalk.Proofs.Config.Unseen
import FolderTalk.Proofs.Storage.Following

/-!
# Setting a value on the command line

The command that sets a value in the configuration file shows what changes, or says that nothing
does. What it says is decided by the lines that are seen in the diff of the file before and after, not
by the mapping in the file.

* `Machine.configFile_of_put` : a configuration file that is put on the disk is there afterwards;
* `configSet_output_iff` : when the command says that nothing changes;
* `configSet_reports` : what that tells about the mapping in the file.
-/

namespace FolderTalk.CommandLine

open ConfigFile

/-! ## The configuration file on the disk -/

namespace Machine

variable {m m' : Machine} {f : ConfigFile}

theorem configFile_eq_ok (h : m.configFile = .ok f) : f.stamp = m.stamp ∧ f.saves = m.saves := by
  unfold configFile at h
  split at h
  · cases h
  · rw [← Except.ok.inj h]
    exact ⟨rfl, rfl⟩
  · split at h
    · cases h
    · rw [← Except.ok.inj h]
      exact ⟨rfl, rfl⟩
    · cases h

/-- A configuration file that is there is taken as it is. -/
theorem ensureConfigFile_eq (h : m.configFile = .ok f) (hthere : f.text.isSome) :
    m.ensureConfigFile = (m, .ok f) := by
  unfold ensureConfigFile putConfigFile
  simp only [h, ensure_eq_self hthere, (configFile_eq_ok h).2, beq_self_eq_true, if_true]

/-- **A configuration file that is put on the disk** is there afterwards. -/
theorem configFile_of_put {text : String} (hstamp : f.stamp = m.stamp) (hsaves : f.saves ≠ m.saves)
    (htext : f.text = some text) (h : m.putConfigFile f = (m', none)) : m'.configFile = .ok f := by
  unfold putConfigFile at h
  rw [if_neg (by simpa using hsaves), htext] at h
  dsimp only at h
  rcases hlaid : m.disk.layDirectories m.configPath.dropLast with ⟨d, _ | fault⟩
  · rw [show ({ m with saves := f.saves } : Machine).configPath = m.configPath from rfl, hlaid] at h
    dsimp only at h
    rcases hwritten : d.writeContent m.configPath (.text text) with fault | d'
    · rw [hwritten] at h
      cases h
    · rw [hwritten] at h
      obtain ⟨hholds, hcontent⟩ := Disk.content_of_writeContent hwritten
      have hpath : m'.configPath = m.configPath := by
        rw [← (Prod.mk.inj h).1]
        rfl
      have hdisk : m'.disk = d' := by rw [← (Prod.mk.inj h).1]
      have hfields : m'.stamp = f.stamp ∧ m'.saves = f.saves := by
        rw [← (Prod.mk.inj h).1]
        exact ⟨hstamp.symm, rfl⟩
      unfold configFile
      rw [hpath, hdisk, hholds]
      dsimp only
      rw [hcontent, hfields.1, hfields.2]
      dsimp only
      rw [← htext]
  · rw [show ({ m with saves := f.saves } : Machine).configPath = m.configPath from rfl, hlaid] at h
    cases h

end Machine

/-! ## What the command prints -/

variable {m : Machine} {file : ConfigFile} {key value : String}

/-- What the command prints if it shows no change. -/
def unchanged : String := "No changes applied; value already up to date.\n"

/-- A value can be set: there is a configuration file, it takes the value, and there is room for it on
the disk. -/
structure Accepts (m : Machine) (file : ConfigFile) (key value : String) : Prop where
  configFile : m.configFile = .ok file
  there : file.text.isSome
  assign : (file.assign key value).2 = none
  put : (m.putConfigFile (file.assign key value).1).2 = none

theorem Accepts.changeConfigFile (h : Accepts m file key value) :
    m.changeConfigFile file (·.assign key value) =
      ((m.putConfigFile (file.assign key value).1).1, .ok (file.assign key value).1) := by
  have hassign := h.assign
  have hput := h.put
  unfold Machine.changeConfigFile
  rcases hchanged : file.assign key value with ⟨changed, _ | failure⟩
  · rw [hchanged] at hput
    rcases hmade : m.putConfigFile changed with ⟨m', _ | fault⟩
    · simp only [hchanged, hmade]
    · rw [hmade] at hput
      cases hput
  · rw [hchanged] at hassign
    cases hassign

/-- What the command does and prints. -/
theorem configSet_came (h : Accepts m file key value) :
    (configSet m key value).1 = (m.putConfigFile (file.assign key value).1).1 ∧
      (changes? file.read (file.assign key value).1.read = none →
        (configSet m key value).2.output = unchanged) ∧
      ∀ lines, changes? file.read (file.assign key value).1.read = some lines →
        ∃ after, (configSet m key value).2.output = croppedLines lines ++ after := by
  simp only [configSet, Machine.ensureConfigFile_eq h.configFile h.there, h.changeConfigFile]
  refine ⟨trivial, fun hnone => ?_, fun lines hlines => ?_⟩
  · rw [hnone]
    have hmessage : (Answer.ofOutput (printed
        "[yellow]No changes applied; value already up to date.[/yellow]".toList)).output =
          unchanged := by
      decide +kernel
    exact hmessage
  · rw [hlines]
    exact ⟨_, rfl⟩

/-- A diff does not begin like the message that nothing changes. -/
theorem diff_ne_unchanged (more : List (List Char)) (after : String) :
    croppedLines ("--- config.yaml (before)".toList :: more) ++ after ≠ unchanged := by
  intro hsame
  have hshown : (Terminal.clip Terminal.screenWidth (Terminal.expandCodeTabs
      "--- config.yaml (before)".toList)).head? = some '-' := by decide
  have hfirst := congrArg (fun s => s.toList.head?) hsame
  simp only [croppedLines, textOfLines, List.map_cons, List.flatMap_cons, String.toList_append,
    String.toList_ofList, List.append_assoc, List.head?_append, hshown, Option.some_or] at hfirst
  exact absurd hfirst (by decide)

/-- The command says that nothing changes exactly if no change is shown. -/
theorem configSet_output_iff (h : Accepts m file key value) :
    (configSet m key value).2.output = unchanged ↔
      changes? file.read (file.assign key value).1.read = none := by
  obtain ⟨-, hnone, hsome⟩ := configSet_came h
  refine ⟨fun hsaid => ?_, hnone⟩
  cases hchanges : changes? file.read (file.assign key value).1.read with
  | none => rfl
  | some lines =>
    obtain ⟨after, hafter⟩ := hsome lines hchanges
    obtain ⟨more, rfl⟩ := changes?_eq_some hchanges
    exact absurd (hafter.symm.trans hsaid) (diff_ne_unchanged more after)

/-- Afterwards the file on the disk is the one with the value. -/
theorem configFile_configSet (h : Accepts m file key value) :
    (configSet m key value).1.configFile = .ok (file.assign key value).1 := by
  obtain ⟨hstamp, hsaves⟩ := Machine.configFile_eq_ok h.configFile
  obtain ⟨es, body, -, hbody, hsave⟩ := assign_eq_save h.assign
  obtain ⟨htime, hcount⟩ := fields_save file hbody
  have htext := (text_save file hbody).2
  rw [← hsave] at htime hcount htext
  have hmade : m.putConfigFile (file.assign key value).1 =
      ((m.putConfigFile (file.assign key value).1).1, none) := Prod.ext rfl h.put
  have hnew : (file.assign key value).1.saves ≠ m.saves := by
    rw [hcount, hsaves]
    exact Nat.succ_ne_self _
  rw [(configSet_came h).1]
  exact Machine.configFile_of_put (htime.trans hstamp) hnew htext hmade

/-! ## What it tells about the file -/

/-- **What the command that sets a value says**, if the value can be set. The file is then changed on
the disk. The command says that nothing changes exactly if all removed and added lines of the text are
unseen. So no change of the mapping is hidden, but shown in a diff, as long as the text was orderly
and all lines of the mapping that is written are seen. -/
theorem configSet_reports (h : Accepts m file key value) :
    let changed := (file.assign key value).1
    (configSet m key value).1.configFile = .ok changed ∧
      ((configSet m key value).2.output = unchanged ↔
        ∀ p ∈ Diff.compare (Text.lines file.read.toList) (Text.lines changed.read.toList),
          (∀ line ∈ p.removed, isUnseen '-' line) ∧ ∀ line ∈ p.added, isUnseen '+' line) ∧
      (OneLine (m.stamp (m.saves + 1)) → Orderly file.read.toList →
        (∀ es body, file.assigned key value = .ok es → Yaml.write es = .ok body →
          ∀ line ∈ Text.lines body.toList, isSeen line) →
        ((configSet m key value).2.output = unchanged → changed.entries = file.entries) ∧
          (changed.entries ≠ file.entries → ∃ lines after,
            changes? file.read changed.read = some lines ∧
              (configSet m key value).2.output = croppedLines lines ++ after)) := by
  intro changed
  have houtput := configSet_output_iff h
  obtain ⟨hstamp, hsaves⟩ := Machine.configFile_eq_ok h.configFile
  refine ⟨configFile_configSet h, houtput.trans (changes?_eq_none_iff _ _),
    fun hline hbefore hseen => ?_⟩
  rw [← hstamp, ← hsaves] at hline
  have hsame := entries_eq_of_unreported h.assign hline hbefore hseen
  refine ⟨fun hsaid => hsame (houtput.mp hsaid), fun hne => ?_⟩
  cases hchanges : changes? file.read changed.read with
  | none => exact absurd (hsame hchanges) hne
  | some lines =>
    obtain ⟨after, hafter⟩ := (configSet_came h).2.2 lines hchanges
    exact ⟨lines, after, rfl, hafter⟩

/-! ## A saved name -/

/-- A mapping with the name of the session only. -/
def named (name : String) : Entries := [(.text "session", .map [(.text "name", .text name)])]

/-- The text of a file in which this is saved below the header. -/
def saved (body : String) : String :=
  header ++ stampMark ++ " " ++ "2024-04-30T09:00:00Z" ++ "\n" ++ body

/-- A machine whose disk holds a configuration file in which this is saved. -/
def Machine.configured (body : String) : Machine where
  disk :=
    { directories := [["home"], ["home", ".chatorg"]]
      files := [(["home", ".chatorg", "config.yaml"], .text (saved body))] }
  home := ["home"]
  here := ["home"]
  environment := []
  sources := { clock := fun _ => none, colorFrom := fun _ _ => none }
  stamp := fun _ => "2024-05-01T10:00:00Z"
  time := ""

theorem Machine.putConfigFile_configured (body : String) (f : ConfigFile) :
    ((configured body).putConfigFile f).2 = none := by
  have hlaid : ({ configured body with saves := f.saves } : Machine).disk.layDirectories
      (Machine.configPath { configured body with saves := f.saves }).dropLast =
        ((configured body).disk, none) := by
    show (configured body).disk.layDirectories ["home", ".chatorg"] = _
    rw [Disk.layDirectories]
    rfl
  unfold putConfigFile
  split
  · rfl
  · dsimp only
    rw [hlaid]
    cases f.text <;> rfl

theorem oneLine_stamps : OneLine "2024-04-30T09:00:00Z" ∧ OneLine "2024-05-01T10:00:00Z" := by
  decide

/-- The name in a saved file is set: what the file holds and reads before and afterwards. -/
structure Naming (file : ConfigFile) (old new value before after : String) : Prop where
  accepts : Accepts (.configured before) file "session.name" value
  entries_before : file.entries = .ok (named old)
  read_before : file.read =
    String.ofList (Yaml.unlines (headerLines "2024-04-30T09:00:00Z") ++ before.toList)
  assigned : file.assigned "session.name" value = .ok (named new)
  entries_after : (file.assign "session.name" value).1.entries = parse after
  read_after : (file.assign "session.name" value).1.read =
    String.ofList (Yaml.unlines (headerLines "2024-05-01T10:00:00Z") ++ after.toList)

/-- Setting the name in a saved file. -/
theorem exists_naming {old new value before after : String} (hold : Yaml.write (named old) = .ok before)
    (hparse : parse before = .ok (named old)) (hvalue : parseValue value = .ok (.text new))
    (hnew : Yaml.write (named new) = .ok after)
    (hresolve : ∃ c, Config.resolve (some (.map (named new))) none none = .ok c) :
    ∃ file, Naming file old new value before after := by
  let file : ConfigFile := { text := some (saved before), stamp := fun _ => "2024-05-01T10:00:00Z" }
  have hentries : file.entries = .ok (named old) :=
    (entries_saved oneLine_stamps.1 hold rfl).trans hparse
  have hassigned : file.assigned "session.name" value = .ok (named new) := by
    have hkey : segments "session.name" = ["session", "name"] := by decide +kernel
    unfold ConfigFile.assigned
    rw [hkey, hentries, hvalue]
    simp [named, Config.changeAt, Entries.mappingAt?, Entries.get?, Entries.find?, Entries.set,
      Entries.put, Config.rejecting, bind, Except.bind, Except.map]
  obtain ⟨c, hc⟩ := hresolve
  obtain ⟨hassign, htext⟩ := assign_of_assigned hassigned hc hnew
  exact ⟨file, ⟨rfl, rfl, hassign, Machine.putConfigFile_configured before _⟩, hentries,
    read_saved oneLine_stamps.1 hold rfl, hassigned, entries_saved oneLine_stamps.2 hnew htext,
    read_saved oneLine_stamps.2 hnew htext⟩

/-- Setting a name to what it is changes the time of the last change only, and the command says so. -/
theorem configSet_reports_same :
    (configSet (.configured "session:\n  name: work\n") "session.name" "work").2.output = unchanged ∧
      ∃ file changed, (Machine.configured "session:\n  name: work\n").configFile = .ok file ∧
        (configSet (.configured "session:\n  name: work\n") "session.name" "work").1.configFile =
          .ok changed ∧
        changed.entries = file.entries := by
  have hwrite : Yaml.write (named "work") = .ok "session:\n  name: work\n" := by decide +kernel
  have hparse : parse "session:\n  name: work\n" = .ok (named "work") := by decide +kernel
  have hvalue : parseValue "work" = .ok (.text "work") := by decide +kernel
  have hresolve : Config.resolve (some (.map (named "work"))) none none =
      .ok { session := { name := "work" } } := by
    decide +kernel
  obtain ⟨file, hnaming⟩ := exists_naming hwrite hparse hvalue hwrite ⟨_, hresolve⟩
  have hlines : ∀ line ∈ Text.lines "session:\n  name: work\n".toList, isSeen line := by
    decide +kernel
  have hbefore : Orderly file.read.toList := by
    rw [hnaming.read_before, String.toList_ofList]
    exact orderly_saved oneLine_stamps.1 hwrite hlines
  have hseen : ∀ es body, file.assigned "session.name" "work" = .ok es → Yaml.write es = .ok body →
      ∀ line ∈ Text.lines body.toList, isSeen line := by
    intro es body hes hbody
    obtain rfl := Except.ok.inj (hnaming.assigned.symm.trans hes)
    obtain rfl := Except.ok.inj (hwrite.symm.trans hbody)
    exact hlines
  have hnone : changes? file.read (file.assign "session.name" "work").1.read = none := by
    rw [hnaming.read_before, hnaming.read_after, changes?_ofList]
    decide +kernel
  have hsaid := (configSet_output_iff hnaming.accepts).mpr hnone
  obtain ⟨hchanged, -, hreports⟩ := configSet_reports hnaming.accepts
  exact ⟨hsaid, file, _, hnaming.accepts.configFile, hchanged,
    (hreports oneLine_stamps.2 hbefore hseen).1 hsaid⟩

/-- A name that looks like the time of the last change is changed, and the command says that nothing
is. -/
theorem configSet_hides_value :
    (configSet (.configured "session:\n  name: '# Last updated: a'\n") "session.name"
        "'# Last updated: b'").2.output = unchanged ∧
      (∃ file,
        (Machine.configured "session:\n  name: '# Last updated: a'\n").configFile = .ok file ∧
          file.entries = .ok (named "# Last updated: a")) ∧
      ∃ file, (configSet (.configured "session:\n  name: '# Last updated: a'\n") "session.name"
          "'# Last updated: b'").1.configFile = .ok file ∧
        file.entries = .ok (named "# Last updated: b") := by
  have hold : Yaml.write (named "# Last updated: a") =
      .ok "session:\n  name: '# Last updated: a'\n" := by
    decide +kernel
  have hparse : parse "session:\n  name: '# Last updated: a'\n" =
      .ok (named "# Last updated: a") := by
    decide +kernel
  have hvalue : parseValue "'# Last updated: b'" = .ok (.text "# Last updated: b") := by
    decide +kernel
  have hnew : Yaml.write (named "# Last updated: b") =
      .ok "session:\n  name: '# Last updated: b'\n" := by
    decide +kernel
  have hresolve : Config.resolve (some (.map (named "# Last updated: b"))) none none =
      .ok { session := { name := "# Last updated: b" } } := by
    decide +kernel
  obtain ⟨file, hnaming⟩ := exists_naming hold hparse hvalue hnew ⟨_, hresolve⟩
  have hnone : changes? file.read (file.assign "session.name" "'# Last updated: b'").1.read = none := by
    rw [hnaming.read_before, hnaming.read_after, changes?_ofList]
    decide +kernel
  have hafter : (file.assign "session.name" "'# Last updated: b'").1.entries =
      .ok (named "# Last updated: b") :=
    hnaming.entries_after.trans (by decide +kernel)
  exact ⟨(configSet_output_iff hnaming.accepts).mpr hnone,
    ⟨file, hnaming.accepts.configFile, hnaming.entries_before⟩, _,
    configFile_configSet hnaming.accepts, hafter⟩

end FolderTalk.CommandLine
