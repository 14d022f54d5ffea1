import FolderTalk.Storage.Document

/-!
# The drawer of a session

The documents of one session by their keys: the part of the disk that a session reads and writes.
-/

namespace FolderTalk

/-- Documents by key. -/
structure Drawer where
  documents : List (String × Document) := []
  deriving DecidableEq, Inhabited

namespace Drawer

def get? (d : Drawer) (key : String) : Option Document := d.documents.lookup key

/-- Replaces or adds the document of a key. -/
def put (d : Drawer) (key : String) (doc : Document) : Drawer :=
  if (d.get? key).isSome then
    ⟨d.documents.map fun e => if e.1 == key then (key, doc) else e⟩
  else ⟨d.documents ++ [(key, doc)]⟩

/-- Stores a value under a key. -/
def save (d : Drawer) (key : String) (v : Value) : Except Fault Drawer :=
  (Document.ofValue v).map (d.put key)

def remove (d : Drawer) (keys : List String) : Drawer :=
  ⟨d.documents.filter fun e => !keys.contains e.1⟩

end Drawer

end FolderTalk
