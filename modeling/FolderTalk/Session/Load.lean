import FolderTalk.Number.Numeral
import FolderTalk.Session.Basic

/-!
# Loading a session

Each part of a session's state is read from its own document. A document that is absent, cannot be
read or does not fit leaves its part at the default, so damage in one document does not reach the
other parts. Only a fault ends the loading: a height too large to be a whole number, a numeral that
is too long, or data nested too deeply.
-/

namespace FolderTalk

/-- What became of reading one part. -/
inductive Reading (α : Type) where
  /-- There is no document. -/
  | absent
  /-- The document is not JSON data. -/
  | unreadable
  /-- The data does not fit the part. -/
  | unfit
  | fault (f : Fault)
  /-- The part, and the data it was made from. -/
  | found (part : α) (data : Value)

/-- Why data is not turned into a part. -/
inductive Misfit where
  | unfit
  | fault (f : Fault)

namespace Reading

/-- Reads the document of a key. -/
def of {α : Type} (d : Drawer) (key : StateKey) (convert : Value → Except Misfit α) : Reading α :=
  match d.get? key.name with
  | none => absent
  | some doc =>
    match doc.value with
    | .error .invalid => unreadable
    | .error (.fault f) => fault f
    | .ok data =>
      match convert data with
      | .ok part => found part data
      | .error .unfit => unfit
      | .error (.fault f) => fault f

/-- The part that was read, if there is one. -/
def part? {α : Type} : Reading α → Option α
  | found part _ => some part
  | _ => none

/-- The data of a part that was read, if there is one. -/
def data? {α : Type} : Reading α → Option Value
  | found _ data => some data
  | _ => none

def fault? {α : Type} : Reading α → Option Fault
  | fault f => some f
  | _ => none

/-- What is reported about a part that is passed over. -/
def complaint? {α : Type} (key : StateKey) : Reading α → Option Event
  | unreadable => some (.unreadable key)
  | unfit => some (.unfit key)
  | _ => none

end Reading

/-! ## The forms of the parts -/

def listPart {α : Type} (check : Value → Schema.Checked α) (v : Value) : Except Misfit (List α) :=
  match Schema.listOf check v with
  | .valid items => .ok items
  | .invalid _ => .error .unfit

/-- A height may be any number or numeral; fractions are cut off. -/
def heightPart : Value → Except Misfit Int
  | .bool b => .ok (if b then 1 else 0)
  | .int n => .ok n
  | .float (.infinite _) => .error (.fault .infiniteHeight)
  | .float x =>
    match x.truncate? with
    | some n => .ok n
    | none => .error .unfit
  | .text s =>
    match Numeral.readInt s with
    | .ok n => .ok n
    | .error _ => .error .unfit
  | _ => .error .unfit

/-- The identifier of a folder; the word for null stands for no folder too. -/
def selectionPart : Value → Except Misfit (Option String)
  | .null => .ok none
  | .text s => .ok (if s == "null" then none else some s)
  | _ => .error .unfit

/-! ## The whole state -/

/-- The readings of all six parts. -/
structure Readings where
  files : Reading (List FileEntry)
  folders : Reading (List Folder)
  messages : Reading (List Message)
  history : Reading (List Store)
  chatHeight : Reading Int
  selected : Reading (Option String)

/-- What the loading does with one reading. -/
structure Trace where
  key : StateKey
  fault : Option Fault
  complaint : Option Event
  data : Option Value

def Trace.of {α : Type} (key : StateKey) (r : Reading α) : Trace :=
  ⟨key, r.fault?, r.complaint? key, r.data?⟩

namespace Readings

def ofDrawer (d : Drawer) : Readings :=
  { files := .of d .files (listPart FileEntry.check)
    folders := .of d .folders (listPart Folder.check)
    messages := .of d .messages (listPart Message.check)
    history := .of d .history (listPart Store.check)
    chatHeight := .of d .chatHeight heightPart
    selected := .of d .selectedFolder selectionPart }

/-- The traces of the readings, in the order in which the documents are read. -/
def traces (r : Readings) : List Trace :=
  [.of .files r.files, .of .folders r.folders, .of .messages r.messages, .of .history r.history,
   .of .chatHeight r.chatHeight, .of .selectedFolder r.selected]

/-- The state that the readings make up. -/
def state (r : Readings) : SessionState :=
  let initial := SessionState.initial
  { store :=
      { files := r.files.part?.getD initial.store.files
        folders := r.folders.part?.getD initial.store.folders }
    messages := r.messages.part?.getD initial.messages
    history := r.history.part?.getD initial.history
    chatHeight := (r.chatHeight.part?.map Panel.clamp).getD initial.chatHeight
    selected := r.selected.part?.getD none }

end Readings

namespace Workbench

/-- Takes note of one reading. -/
def note (w : Workbench) (t : Trace) : Workbench :=
  let w := w.reportAll t.complaint.toList
  match t.data with
  | some v => w.change (·.remember t.key v)
  | none => w

/-- Takes note of the readings in turn, up to the first fault. -/
def noteAll : Workbench → List Trace → Workbench × Option Fault
  | w, [] => (w, none)
  | w, t :: ts =>
    match t.fault with
    | some f => (w, some f)
    | none => noteAll (w.note t) ts

/-- Takes on the state that is stored in the drawer. -/
def load (w : Workbench) : Workbench × Option Fault :=
  let readings := Readings.ofDrawer w.drawer
  match w.noteAll readings.traces with
  | (w, some f) => (w, some f)
  | (w, none) =>
    let w := w.change fun s => { s.withState readings.state with loaded := true }
    let desk := w.session.desk
    (w.report (.loaded w.session.name desk.store.files.length desk.store.folders.length
      desk.history.size), none)

def loadIfNeeded (w : Workbench) : Workbench × Option Fault :=
  if w.session.loaded then (w, none) else w.load

end Workbench

end FolderTalk
