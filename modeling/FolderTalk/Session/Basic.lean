import FolderTalk.Config.Basic
import FolderTalk.Engine.Execute
import FolderTalk.Session.Event
import FolderTalk.Storage.Drawer

/-!
# Sessions

A session holds the tree, the undo history, the open folder, the transcript and the panel's height,
and remembers for each of its six stored parts the value it believes to be stored. A workbench is a
session together with what it works on: its drawer of documents, the engine's sources and the log.
-/

namespace FolderTalk

/-- A session in memory. -/
structure Session where
  name : String
  palette : List String
  /-- The pause before each reply, in seconds. -/
  delay : Binary64
  desk : Desk
  messages : List Message
  chatHeight : Int
  loaded : Bool := false
  /-- Whether a command is being processed. -/
  busy : Bool := false
  /-- The values believed to be stored. -/
  stored : StateKey → Option Value := fun _ => none

/-- A session at work. -/
structure Workbench where
  session : Session
  drawer : Drawer
  sources : Sources
  log : List Event := []
  /-- How a command is understood; `none` is a failure to do so. -/
  interpret : String → Store → Option Intent := fun text store => some (Command.recognise text store)

/-- What the open folder shows. -/
structure View where
  folder : Option Folder
  subfolders : List Folder
  files : List FileEntry

namespace Session

/-- A pause given in milliseconds, in seconds. -/
def pause (ms : Nat) : Except Fault Binary64 :=
  match Binary64.ofRatio false ms 1000 with
  | .infinite _ => .error .delayTooLong
  | x => .ok x

/-- A session that has not been loaded: it shows the initial state. -/
def start (settings : EngineSettings) (name : String) : Except Fault Session :=
  (pause settings.responseDelayMs).map fun delay =>
    let initial := SessionState.initial
    { name := name
      palette := Palette.orBuiltIn settings.folderColors
      delay := delay
      desk :=
        { store := initial.store
          history := .ofSnapshots settings.historyLimit.val settings.historyLimit.property
            initial.history
          selected := initial.selected }
      messages := initial.messages
      chatHeight := initial.chatHeight }

/-- Everything that the session stores. -/
def state (s : Session) : SessionState :=
  { store := s.desk.store
    messages := s.messages
    history := s.desk.history.snapshots
    chatHeight := s.chatHeight
    selected := s.desk.selected }

/-- The session in another state; of a history that is too long the newest part is kept. -/
def withState (s : Session) (state : SessionState) : Session :=
  { s with
    desk :=
      { store := state.store
        history := .ofSnapshots s.desk.history.limit s.desk.history.limit_pos state.history
        selected := state.selected }
    messages := state.messages
    chatHeight := state.chatHeight }

/-- Notes that a value is stored under a key. -/
def remember (s : Session) (key : StateKey) (v : Value) : Session :=
  { s with stored := fun k => if k == key then some v else s.stored k }

/-- Notes that nothing is stored under the keys. -/
def forget (s : Session) (keys : List StateKey) : Session :=
  { s with stored := fun k => if keys.contains k then none else s.stored k }

def append (s : Session) (text : String) (sender : Sender) : Session :=
  { s with messages := Transcript.append s.messages text sender }

/-- The open folder's content, or the unorganized files when no folder is open. -/
def view (s : Session) : View :=
  let store := s.desk.store
  match s.desk.selected with
  | none => ⟨none, [], store.unorganizedFiles⟩
  | some id => ⟨store.folderWithId (some id), store.subfolders (some id), store.filesIn id⟩

end Session

/-- The stored form of one part of a state. -/
def SessionState.part (s : SessionState) : StateKey → Value
  | .files => .list (s.store.files.map FileEntry.toValue)
  | .folders => .list (s.store.folders.map Folder.toValue)
  | .messages => .list (s.messages.map Message.toValue)
  | .history => .list (s.history.map Store.toValue)
  | .chatHeight => .int s.chatHeight
  | .selectedFolder => .ofOptionalText s.selected

namespace Workbench

def report (w : Workbench) (e : Event) : Workbench := { w with log := w.log ++ [e] }

def reportAll (w : Workbench) (es : List Event) : Workbench := { w with log := w.log ++ es }

/-- The workbench with a changed session. -/
def change (w : Workbench) (f : Session → Session) : Workbench := { w with session := f w.session }

end Workbench

end FolderTalk
