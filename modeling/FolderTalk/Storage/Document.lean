import FolderTalk.Fault

/-!
# Stored documents

The content of a file. A document of text can be read as JSON data; bytes that are no text cannot.
-/

namespace FolderTalk

/-- The content of a file. -/
inductive Document where
  | text (s : String)
  | undecodable (bytes : List UInt8)
  deriving DecidableEq, Inhabited

/-- Why a document has no value. -/
inductive DocumentError where
  | invalid
  | fault (f : Fault)
  deriving DecidableEq, Repr

namespace Document

def ofBytes (bytes : ByteArray) : Document :=
  match String.fromUTF8? bytes with
  | some s => text s
  | none => undecodable bytes.toList

/-- The document with more text at its end. -/
def append : Document → String → Document
  | text s, more => text (s ++ more)
  | undecodable bytes, more => undecodable (bytes ++ more.toUTF8.toList)

/-- The JSON value of a document. -/
def value : Document → Except DocumentError Value
  | undecodable _ => .error .invalid
  | text s =>
    match Json.read s with
    | .ok v => .ok v
    | .error .malformed => .error .invalid
    | .error (.tooManyDigits n) => .error (.fault (.tooManyDigits n))
    | .error (.tooDeep c) => .error (.fault (.nestedTooDeep c))

/-- The document of a value. -/
def ofValue (v : Value) : Except Fault Document :=
  match Json.write v with
  | .ok s => .ok (text s)
  | .error e => .error (.ofWriteError e)

end Document

end FolderTalk
