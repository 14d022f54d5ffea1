import FolderTalk.Store.Data
import FolderTalk.Store.Seed
import FolderTalk.Transcript

/-!
# The state of a session

Everything that is kept for one session between two runs of the program, and the names under which
its six parts are stored.
-/

namespace FolderTalk

open Schema

/-- The height of the transcript panel and its bounds. -/
def Panel.defaultHeight : Int := 600

def Panel.minHeight : Int := 300

def Panel.maxHeight : Int := 800

/-- A height brought into the supported range. -/
def Panel.clamp (height : Int) : Int := max Panel.minHeight (min Panel.maxHeight height)

/-- The parts of a session's state that are stored on their own. -/
inductive StateKey where
  | files | folders | messages | history | chatHeight | selectedFolder
  deriving DecidableEq, Repr

namespace StateKey

def all : List StateKey := [files, folders, messages, history, chatHeight, selectedFolder]

def name : StateKey → String
  | files => "files"
  | folders => "folders"
  | messages => "messages"
  | history => "history"
  | chatHeight => "chat_height"
  | selectedFolder => "selected_folder"

/-- The parts that a reset wipes: all but the panel's height. -/
def wipedByReset : List StateKey := all.filter (· != chatHeight)

end StateKey

/-- Everything that is kept for a session. -/
structure SessionState where
  store : Store := {}
  messages : List Message := []
  history : List Store := []
  chatHeight : Int := Panel.defaultHeight
  selected : Option String := none
  deriving DecidableEq, Repr, Inhabited

namespace SessionState

/-- The state of a session that nobody has used. -/
def initial : SessionState := { store := Store.seed, messages := [Transcript.welcome] }

def toValue (s : SessionState) : Value :=
  .map [(.text "store", s.store.toValue), (.text "messages", .list (s.messages.map Message.toValue)),
    (.text "history", .list (s.history.map Store.toValue)), (.text "chat_height", .int s.chatHeight),
    (.text "selected_folder", .ofOptionalText s.selected)]

def check : Value → Checked SessionState :=
  record "SessionState" fun e =>
    ((((Checked.valid SessionState.mk
      |>.app (optionalField e "store" {} Store.check))
      |>.app (optionalField e "messages" [] (listOf Message.check)))
      |>.app (optionalField e "history" [] (listOf Store.check)))
      |>.app (optionalField e "chat_height" Panel.defaultHeight integer))
      |>.app (optionalField e "selected_folder" none optionalText)

end SessionState

end FolderTalk
