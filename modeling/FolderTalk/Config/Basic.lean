import FolderTalk.Engine.Palette
import FolderTalk.History
import FolderTalk.Schema.Check

/-!
# Configuration

The settings of the program in four sections, how they are written as free values and how they are
checked. Unlike stored data, a configuration may not hold keys that it does not know.
-/

namespace FolderTalk

open Schema

/-- Where sessions are kept. -/
structure SessionSettings where
  name : String := "default"
  stateDir : String := "~/.chatorg/sessions"
  deriving DecidableEq, Repr, Inhabited

/-- How commands are run. -/
structure EngineSettings where
  historyLimit : History.Limit := .usual
  responseDelayMs : Nat := 600
  folderColors : List String := Palette.builtIn
  deriving DecidableEq, Repr

instance : Inhabited EngineSettings := ⟨{}⟩

/-- How the program logs. -/
structure LoggingSettings where
  level : String := "WARNING"
  maxSizeMb : Int := 10
  backupCount : Int := 5
  deriving DecidableEq, Repr, Inhabited

/-- How the command line behaves. -/
structure CliSettings where
  quietDefault : Bool := false
  transcriptLimit : Int := 20
  deriving DecidableEq, Repr, Inhabited

/-- All settings. -/
structure Config where
  session : SessionSettings := {}
  engine : EngineSettings := {}
  logging : LoggingSettings := {}
  cli : CliSettings := {}
  deriving DecidableEq, Repr, Inhabited

namespace SessionSettings

def toValue (s : SessionSettings) : Value :=
  .map [(.text "name", .text s.name), (.text "state_dir", .text s.stateDir)]

def check : Value → Checked SessionSettings :=
  record "SessionSettings" fun e => closed e ["name", "state_dir"] <|
    (Checked.valid SessionSettings.mk
      |>.app (optionalField e "name" "default" text))
      |>.app (optionalField e "state_dir" "~/.chatorg/sessions" text)

end SessionSettings

namespace EngineSettings

def toValue (s : EngineSettings) : Value :=
  .map [(.text "history_limit", .int s.historyLimit.val),
    (.text "response_delay_ms", .int s.responseDelayMs),
    (.text "folder_colors", .list (s.folderColors.map .text))]

def check : Value → Checked EngineSettings :=
  record "EngineSettings" fun e =>
    closed e ["history_limit", "response_delay_ms", "folder_colors"] <|
    ((Checked.valid EngineSettings.mk
      |>.app (optionalField e "history_limit" .usual positive))
      |>.app (optionalField e "response_delay_ms" 600 natural))
      |>.app (optionalField e "folder_colors" Palette.builtIn (listOf text))

end EngineSettings

namespace LoggingSettings

def toValue (s : LoggingSettings) : Value :=
  .map [(.text "level", .text s.level), (.text "max_size_mb", .int s.maxSizeMb),
    (.text "backup_count", .int s.backupCount)]

def check : Value → Checked LoggingSettings :=
  record "LoggingSettings" fun e => closed e ["level", "max_size_mb", "backup_count"] <|
    ((Checked.valid LoggingSettings.mk
      |>.app (optionalField e "level" "WARNING" text))
      |>.app (optionalField e "max_size_mb" 10 integer))
      |>.app (optionalField e "backup_count" 5 integer)

end LoggingSettings

namespace CliSettings

def toValue (s : CliSettings) : Value :=
  .map [(.text "quiet_default", .bool s.quietDefault),
    (.text "transcript_limit", .int s.transcriptLimit)]

def check : Value → Checked CliSettings :=
  record "CLIOptions" fun e => closed e ["quiet_default", "transcript_limit"] <|
    (Checked.valid CliSettings.mk
      |>.app (optionalField e "quiet_default" false boolean))
      |>.app (optionalField e "transcript_limit" 20 integer)

end CliSettings

namespace Config

def entries (c : Config) : Entries :=
  [(.text "session", c.session.toValue), (.text "engine", c.engine.toValue),
   (.text "logging", c.logging.toValue), (.text "cli", c.cli.toValue)]

def toValue (c : Config) : Value := .map c.entries

def check : Value → Checked Config :=
  record "ChatorgConfig" fun e => closed e ["session", "engine", "logging", "cli"] <|
    (((Checked.valid Config.mk
      |>.app (optionalField e "session" {} SessionSettings.check))
      |>.app (optionalField e "engine" {} EngineSettings.check))
      |>.app (optionalField e "logging" {} LoggingSettings.check))
      |>.app (optionalField e "cli" {} CliSettings.check)

end Config

end FolderTalk
