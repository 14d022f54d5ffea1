import FolderTalk.Number.Shortest
import FolderTalk.Value.Shown
import FolderTalk.Yaml.Page

/-!
# Writing YAML text

Mappings and lists are written as blocks, one entry or item a line, and empty ones as two
brackets. A list inside a mapping is not indented further than the mapping. A list may also be
written on one line between brackets.
-/

namespace FolderTalk.Yaml

/-- The text of a double: an exponent never follows the digits without a point. -/
def floatText (x : Binary64) : String :=
  match x with
  | .nan => ".nan"
  | .infinite negative => if negative then "-.inf" else ".inf"
  | _ =>
    let cs := x.text.toList
    if cs.contains 'e' && !cs.contains '.' then
      String.ofList (cs.flatMap fun c => if c == 'e' then ['.', '0', 'e'] else [c])
    else x.text

/-- The text of a scalar and the kind that it is to be read back as. -/
def scalarText : Value → Kind × String
  | .null => (.null, "null")
  | .bool b => (.bool, if b then "true" else "false")
  | .int n => (.int, toString n)
  | .float x => (.float, floatText x)
  | .text s => (.text, s)
  | .date d => (.moment, d.text)
  | .moment m => (.moment, m.text " ")
  | .list _ | .map _ => (.unknown, "")

/-- The column of what is inside something that stands at a column, if anything is around it. -/
def inner (outer : Option Nat) : Nat := outer.elim 0 (· + 2)

def writeScalar (p : Page) (flow asKey : Bool) (column : Nat) (v : Value) : Page :=
  let (kind, text) := scalarText v
  p.scalar (.choose flow asKey kind text.toList) (!asKey) column text.toList

/-- How long the name of a kind is in a tag. -/
def Kind.tagLength : Kind → Nat
  | null | bool => 6
  | float => 7
  | moment => 11
  | _ => 5

/-- Whether a key is short enough to stand in front of a colon without a mark. -/
def isShortKey (v : Value) : Bool :=
  let (kind, text) := scalarText v
  !text.isEmpty && !text.toList.contains '\n' && kind.tagLength + text.length < 128

def writeKey (p : Page) (column : Nat) (key : Value) : Page :=
  let p := p.indent column
  if isShortKey key then (writeScalar p false true (column + 2) key).mark [':'] false false false
  else
    ((writeScalar (p.mark ['?'] true false true) false false (column + 2) key).indent column).mark
      [':'] true false true

mutual

/-- Writes a node of a block; `outer` is the column of the collection around it. -/
def writeNode (p : Page) (outer : Option Nat) (inMap : Bool) : Value → Page
  | .list items =>
    if items.isEmpty then (p.mark ['['] true true false).mark [']'] false false false
    else writeItems p (if inMap && !p.margin then outer.getD 0 else inner outer) items
  | .map entries =>
    if entries.isEmpty then (p.mark ['\x7b'] true true false).mark ['\x7d'] false false false
    else writeEntries p (inner outer) entries
  | v => writeScalar p false false (outer.getD 0 + 2) v

def writeItems (p : Page) (column : Nat) : List Value → Page
  | [] => p
  | v :: vs =>
    let p := (p.indent column).mark ['-'] true false true
    writeItems (writeNode p (some column) false v) column vs

def writeEntries (p : Page) (column : Nat) : List (Value × Value) → Page
  | [] => p
  | e :: es => writeEntries (writeEntry p column e) column es

def writeEntry (p : Page) (column : Nat) : Value × Value → Page
  | (key, value) => writeNode (writeKey p column key) (some column) true value

end

mutual

/-- Whether every whole number in a value is short enough to be turned into text. -/
def isWritable : Value → Bool
  | .int n => n.natAbs < Nat.pow 10 Numeral.maxDigits
  | .list vs => areWritable vs
  | .map es => areWritableEntries es
  | _ => true

def areWritable : List Value → Bool
  | [] => true
  | v :: vs => isWritable v && areWritable vs

def areWritableEntries : List (Value × Value) → Bool
  | [] => true
  | e :: es => isWritableEntry e && areWritableEntries es

def isWritableEntry : Value × Value → Bool
  | (k, v) => isWritable k && isWritable v

end

def Page.toString (p : Page) : String := String.ofList p.text.reverse

/-- The text of a mapping. -/
def write (entries : Entries) : Except Fault String :=
  if isWritable (.map entries) then
    .ok ((writeNode {} none false (.map entries)).indent 0).toString
  else .error .tooManyDigitsToWrite

/-! ## Lists between brackets -/

/-- The items of a list, those after the first behind a comma. -/
def writeFlowItems : (first : Bool) → Page → List String → Page
  | _, p, [] => p
  | first, p, s :: rest =>
    let p := if first then p else p.mark [','] false false false
    let p := if p.column > lineWidth then p.indent 2 else p
    writeFlowItems false (writeScalar p true false 4 (.text s)) rest

/-- The text of a list of texts between brackets. -/
def writeFlowList (items : List String) : String :=
  ((writeFlowItems true (({} : Page).mark ['['] true true false) items).mark [']']
    false false false).toString

end FolderTalk.Yaml
