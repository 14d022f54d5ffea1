import FolderTalk.Session.Load
import FolderTalk.Session.Save

/-!
# Submitting commands

Commands are processed one at a time. A command that comes in while another one is being processed
is turned away. A command is added to the transcript and saved before it is run, and its reply is
added and saved afterwards; the session is free again in any case.
-/

namespace FolderTalk

/-- What came of one command. -/
structure Outcome where
  command : String
  /-- What the command was taken for; `none` when it could not be interpreted at all. -/
  intent : Option Intent
  message : String
  mutated : Bool := false
  reset : Bool := false
  selected : Option String := none

/-- What a text met that came in during a pause. -/
structure Arrival where
  busy : Bool
  outcome : Option Outcome

/-- The answer to a submitted text. -/
structure Turn where
  outcome : Option Outcome
  /-- The pauses that were made, in seconds. -/
  pauses : List Binary64 := []
  arrivals : List Arrival := []

/-- Whether an action changes the tree when it is applied. -/
def Action.changesTree : Action → Bool
  | undo | reset | info | list | openFolder _ => false
  | _ => true

namespace Workbench

/-- Turns a text away, because another one is being processed. -/
def turnAway (w : Workbench) (text : String) : Workbench :=
  let command := Text.strip text
  if command.isEmpty then w else w.report (.rejected command)

/-- What is reported about understanding a command. -/
def understanding (command : String) (intent : Option Intent) : Event :=
  let words := Command.normalise command
  match intent with
  | none => .parsingFailed command
  | some intent =>
    match Command.firstRule words with
    | some (rule, _) => .matched (String.ofList words) rule intent.action.tag
    | none => .unmatched (String.ofList words)

/-- What is reported about applying an intent. -/
def application (intent : Intent) (e : Effect) : List Event :=
  if e.mutated then [.applied intent.action.tag e.desk.history.size]
  else if intent.action.changesTree then [.executionFailed intent.action.tag]
  else []

/-- What a reset does beyond the tree: the stored parts are wiped and the transcript starts
afresh. -/
def wipe (w : Workbench) : Workbench :=
  { w with drawer := w.drawer.remove (StateKey.wipedByReset.map StateKey.name) }
    |>.change (fun s => { s.forget StateKey.wipedByReset with messages := [Transcript.welcome] })
    |>.report (.wasReset w.session.name)

/-- Applies an intent to the session. -/
def perform (w : Workbench) (command : String) (intent : Intent) : Workbench × Outcome :=
  let (effect, sources) := Engine.execute w.session.palette w.sources intent w.session.desk
  let w := { w with sources := sources }.change ({ · with desk := effect.desk })
    |>.reportAll (application intent effect)
  (if effect.reset then w.wipe else w,
   { command := command
     intent := some intent
     message := effect.message
     mutated := effect.mutated
     reset := effect.reset
     selected := effect.desk.selected })

/-- Interprets a command and applies it. -/
def run (w : Workbench) (command : String) : Workbench × Outcome :=
  let intent := w.interpret command w.session.desk.store
  let w := w.report (understanding command intent)
  match intent with
  | some intent => w.perform command intent
  | none =>
    (w, { command := command, intent := none, message := Engine.failed,
          selected := w.session.desk.selected })

/-- Adds a message to the transcript and saves. -/
def post (w : Workbench) (text : String) (sender : Sender) : Workbench × Option Fault :=
  (w.change (·.append text sender)).save

/-- Processes a command in a session that has been reserved for it. -/
def process (w : Workbench) (command : String) (meanwhile : List String) :
    Workbench × Except Fault Turn :=
  match w.loadIfNeeded with
  | (w, some f) => (w, .error f)
  | (w, none) =>
    match w.post command .user with
    | (w, some f) => (w, .error f)
    | (w, none) =>
      let arrivals := meanwhile.map fun _ => Arrival.mk w.session.busy none
      let (w, outcome) := (meanwhile.foldl turnAway w).run command
      match w.post outcome.message .ai with
      | (w, some f) => (w, .error f)
      | (w, none) => (w, .ok ⟨some outcome, [w.session.delay], arrivals⟩)

/-- Submits a text. The texts in `meanwhile` come in during the pause before the reply. -/
def submitWith (w : Workbench) (text : String) (meanwhile : List String) :
    Workbench × Except Fault Turn :=
  let command := Text.strip text
  if command.isEmpty then (w, .ok { outcome := none })
  else if w.session.busy then (w.turnAway text, .ok { outcome := none })
  else
    let (w, result) := (w.change ({ · with busy := true })).process command meanwhile
    (w.change ({ · with busy := false }), result)

/-- Submits a text while nothing else comes in. -/
def submit (w : Workbench) (text : String) : Workbench × Except Fault Turn := w.submitWith text []

/-- Changes the height of the transcript panel, as far as the range allows. -/
def setHeight (w : Workbench) (height : Int) : Workbench × Except Fault Int :=
  match w.loadIfNeeded with
  | (w, some f) => (w, .error f)
  | (w, none) =>
    match (w.change ({ · with chatHeight := Panel.clamp height })).save with
    | (w, some f) => (w, .error f)
    | (w, none) => (w, .ok w.session.chatHeight)

end Workbench

end FolderTalk
