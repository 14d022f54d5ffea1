import FolderTalk.Session.Basic

/-!
# Saving a session

A part of the state is written only when it differs from the value that is believed to be stored.
-/

namespace FolderTalk.Workbench

/-- Writes one part, unless it is stored already. -/
def saveKey (w : Workbench) (key : StateKey) : Workbench × Option Fault :=
  let v := w.session.state.part key
  if (w.session.stored key).any (·.same v) then (w, none)
  else
    match w.drawer.save key.name v with
    | .ok drawer => ({ w with drawer := drawer }.change (·.remember key v), none)
    | .error f => (w, some f)

/-- Writes the parts of the keys in turn, up to the first fault. -/
def saveKeys : Workbench → List StateKey → Workbench × Option Fault
  | w, [] => (w, none)
  | w, key :: keys =>
    match w.saveKey key with
    | (w, none) => saveKeys w keys
    | (w, some f) => (w, some f)

/-- Writes every part that has changed. -/
def save (w : Workbench) : Workbench × Option Fault := w.saveKeys StateKey.all

end FolderTalk.Workbench
