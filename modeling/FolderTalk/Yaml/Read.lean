import FolderTalk.Yaml.Node

/-!
# The value of a YAML text

Nodes become free values. Mappings take over entries of other mappings that they name under the
merge key. Values are made level by level, from the outermost collection inwards, which decides
which of several errors is reported.
-/

namespace FolderTalk.Yaml

/-- A value with the errors met on the way to it, level by level. -/
structure Piece where
  value : Value
  errors : List (List ReadError) := []
  deriving Inhabited

/-- What a node comes to. -/
structure Built extends Piece where
  /-- The entries of a mapping, for those that name it under the merge key. -/
  entries : Option (List (Piece × Piece)) := none
  /-- The entries of a list of mappings. -/
  itemEntries : Option (List (Piece × Piece)) := none
  deriving Inhabited

/-- Errors on the same level one after another. -/
def joinLevels : List (List ReadError) → List (List ReadError) → List (List ReadError)
  | [], ys => ys
  | xs, [] => xs
  | x :: xs, y :: ys => (x ++ y) :: joinLevels xs ys

/-- Whether a value may be a key. -/
def isKey : Value → Bool
  | .list _ | .map _ => false
  | _ => true

/-- The errors of an entry: those of the key, then those of the value. -/
def entryErrors (e : Piece × Piece) : List (List ReadError) :=
  joinLevels (if isKey e.1.value then e.1.errors else [[.malformed]]) e.2.errors

/-- The value of a scalar. -/
def buildScalar (kind : Kind) (text : List Char) : Built :=
  match scalarValue kind text with
  | .ok v => { value := v }
  | .error e => { value := .null, errors := [[e]] }

def buildList (kind : Kind) (items : List Built) : Built :=
  { value := .list (items.map (·.value))
    errors := [] :: (if kind == .list then [] else [[ReadError.malformed]])
      ++ (items.map (·.errors)).foldl joinLevels []
    itemEntries := (items.mapM Built.entries).map fun lists => lists.reverse.flatten }

/-- The entries that a merge key brings in. -/
def broughtIn (b : Built) : Except ReadError (List (Piece × Piece)) :=
  match b.entries, b.itemEntries with
  | some entries, _ => .ok entries
  | none, some entries => .ok entries
  | none, none => .error .malformed

def buildMap (kind : Kind) (entries : List (Kind × Built × Built)) : Built :=
  let merged := (entries.filter fun e => e.1 == .merge).mapM fun e => broughtIn e.2.2
  let own := (entries.filter fun e => e.1 != .merge).map fun e => (e.2.1.toPiece, e.2.2.toPiece)
  let pairs := (merged.toOption.getD []).flatten ++ own
  let mergeErrors := match merged with | .ok _ => [] | .error e => [[e]]
  { value := .map (Entries.ofPairs (pairs.map fun e => (e.1.value, e.2.value)))
    errors := [] :: joinLevels (if kind == .map then mergeErrors else [[.malformed]])
      ((pairs.map entryErrors).foldl joinLevels [])
    entries := some pairs }

/-- The kind of a key, and the key's own kind as a value: the key for a mapping's value is plain
text. -/
def keyKind : Node → Kind
  | .scalar kind _ => kind
  | .list kind _ | .map kind _ => kind

mutual

/-- What a node comes to. -/
def build : Node → Built
  | .scalar kind text => buildScalar kind text
  | .list kind items => buildList kind (buildItems items)
  | .map kind entries => buildMap kind (buildEntries entries)

def buildItems : List Node → List Built
  | [] => []
  | n :: ns => build n :: buildItems ns

def buildEntries : List (Node × Node) → List (Kind × Built × Built)
  | [] => []
  | e :: es => buildEntry e :: buildEntries es

def buildEntry : Node × Node → Kind × Built × Built
  | (key, value) =>
    let built := match key with
      | .scalar .self text => buildScalar .text text
      | _ => build key
    (keyKind key, built, build value)

end

/-- The value of a text; a text without a document has the value null. -/
def read (s : String) : Except ReadError Value := do
  match ← document (← tokens s) with
  | none => return .null
  | some n =>
    let b := build n
    match b.errors.flatten with
    | [] => return b.value
    | e :: _ => throw e

end FolderTalk.Yaml
