import FolderTalk.Yaml.Kind
import FolderTalk.Yaml.Lexer

/-!
# The nodes of a YAML document

A document is one node: a scalar, a list or a mapping, each of some kind. An alias stands for the
node that was given its name earlier in the document.
-/

namespace FolderTalk.Yaml

/-- The nodes of a document. -/
inductive Node where
  | scalar (kind : Kind) (text : List Char)
  | list (kind : Kind) (items : List Node)
  | map (kind : Kind) (entries : List (Node × Node))
  deriving Repr

/-- Where the nodes of a document are taken from. -/
structure Source where
  tokens : List Token
  /-- The nodes that have a name. -/
  named : List (List Char × Node) := []
  /-- All names that have been given, also those of nodes that are not finished. -/
  names : List (List Char) := []
  /-- What the handles of tags stand for. -/
  handles : List (List Char × List Char)

namespace Source

def peek (s : Source) : Option Token := s.tokens.head?

def next (s : Source) : Source := { s with tokens := s.tokens.drop 1 }

/-- Whether one of the tokens comes next. -/
def isAt (s : Source) (ts : List Token) : Bool := s.peek.any ts.contains

end Source

/-- The names of the kinds that a tag can give. -/
def kindNames : List (String × Kind) :=
  [("null", .null), ("bool", .bool), ("int", .int), ("float", .float), ("timestamp", .moment),
   ("str", .text), ("seq", .list), ("map", .map), ("merge", .merge), ("value", .self)]

def kindUri : String := "tag:yaml.org,2002:"

/-- The kind that a tag names. -/
def Kind.ofUri (uri : List Char) : Kind :=
  (kindNames.find? fun k => (kindUri ++ k.1).toList == uri).elim unknown (·.2)

/-- The properties in front of a node. -/
structure Properties where
  anchor : Option (List Char) := none
  tag : Option (List Char) := none

/-- Whether the tag leaves the kind open. -/
def Properties.isOpen (p : Properties) : Bool := p.tag.all (· == ['!'])

/-- The kind of a node: the one that the tag names, or else `absent`. -/
def Properties.kind (p : Properties) (absent : Kind) : Kind :=
  match p.tag with
  | none => absent
  | some t => if t == ['!'] then absent else .ofUri t

namespace Source

/-- Takes one anchor, if it comes next. -/
def anchor (s : Source) : Option (List Char) × Source :=
  match s.peek with
  | some (.anchor name) => (some name, s.next)
  | _ => (none, s)

/-- Takes one tag, if it comes next. -/
def tag (s : Source) : Except ReadError (Option (List Char) × Source) :=
  match s.peek with
  | some (.tag none suffix) => .ok (some suffix, s.next)
  | some (.tag (some handle) suffix) =>
    match s.handles.lookup handle with
    | some uri => .ok (some (uri ++ suffix), s.next)
    | none => .error .malformed
  | _ => .ok (none, s)

/-- An anchor and a tag, in either order. -/
def properties (s : Source) : Except ReadError (Properties × Source) := do
  let (anchor, s) := s.anchor
  let (tag, s) ← s.tag
  let (anchor, s) := if anchor.isNone && tag.isSome then s.anchor else (anchor, s)
  return (⟨anchor, tag⟩, s)

/-- Gives a name to a node that begins; no name is given twice. -/
def begin_ (s : Source) (p : Properties) : Except ReadError Source :=
  match p.anchor with
  | none => .ok s
  | some name =>
    if s.names.contains name then .error .malformed
    else .ok { s with names := name :: s.names }

/-- Remembers a finished node under its name. -/
def finish (s : Source) (p : Properties) (n : Node) : Node × Source :=
  match p.anchor with
  | none => (n, s)
  | some name => (n, { s with named := (name, n) :: s.named })

end Source

/-- What stands where a node is left out. -/
def Node.absent : Node := .scalar .null []

/-- The kind of a scalar: a plain one is taken for what it looks like, unless a tag says
otherwise. -/
def scalarKind (p : Properties) (plain : Bool) (text : List Char) : Kind :=
  if p.tag == some ['!'] || (plain && p.tag.isNone) then .ofPlain text else p.kind .text

/-- Where a node stands: inside a flow collection; in a block; or in a block mapping, where a list
needs no further indentation. -/
inductive Position where
  | flow | block | mapping
  deriving DecidableEq

mutual

/-- Reads one node. -/
def node : (fuel : Nat) → Position → Source → Except ReadError (Node × Source)
  | 0, _, _ => .error .malformed
  | fuel + 1, position, s => do
    match s.peek with
    | some (.alias name) =>
      match s.named.lookup name with
      | some n => return (n, s.next)
      | none => throw .malformed
    | _ =>
      let (p, s) ← s.properties
      let s ← s.begin_ p
      match s.peek with
      | some .blockEntry =>
        if position == .mapping then
          let (items, s) ← looseItems fuel s
          return s.finish p (.list (p.kind .list) items)
        else emptyNode p s
      | some (.scalar text plain) => return s.next.finish p (.scalar (scalarKind p plain text) text)
      | some .openList =>
        let (items, s) ← flowItems fuel true s.next
        return s.finish p (.list (p.kind .list) items)
      | some .openMap =>
        let (entries, s) ← flowEntries fuel true s.next
        return s.finish p (.map (p.kind .map) entries)
      | some .blockList =>
        if position == .flow then emptyNode p s
        else
          let (items, s) ← blockItems fuel s.next
          return s.finish p (.list (p.kind .list) items)
      | some .blockMap =>
        if position == .flow then emptyNode p s
        else
          let (entries, s) ← blockEntries fuel s.next
          return s.finish p (.map (p.kind .map) entries)
      | _ => emptyNode p s

/-- A node without content; it needs an anchor or a tag. -/
def emptyNode (p : Properties) (s : Source) : Except ReadError (Node × Source) :=
  if p.anchor.isNone && p.tag.isNone then .error .malformed
  else .ok (s.finish p (.scalar (if p.isOpen then .null else p.kind .null) []))

/-- Reads a node, unless one of the tokens comes next. -/
def nodeUnless : (fuel : Nat) → List Token → Position → Source → Except ReadError (Node × Source)
  | 0, _, _, _ => .error .malformed
  | fuel + 1, ends, position, s =>
    if s.isAt ends then .ok (.absent, s) else node fuel position s

/-- The items of a block list, to its end. -/
def blockItems : (fuel : Nat) → Source → Except ReadError (List Node × Source)
  | 0, _ => .error .malformed
  | fuel + 1, s => do
    match s.peek with
    | some .blockEntry =>
      let (item, s) ← nodeUnless fuel [.blockEntry, .blockEnd] .block s.next
      let (items, s) ← blockItems fuel s
      return (item :: items, s)
    | some .blockEnd => return ([], s.next)
    | _ => throw .malformed

/-- The items of a list that is not indented further than the mapping it stands in. -/
def looseItems : (fuel : Nat) → Source → Except ReadError (List Node × Source)
  | 0, _ => .error .malformed
  | fuel + 1, s => do
    match s.peek with
    | some .blockEntry =>
      let (item, s) ← nodeUnless fuel [.blockEntry, .key, .value, .blockEnd] .block s.next
      let (items, s) ← looseItems fuel s
      return (item :: items, s)
    | _ => return ([], s)

/-- The entries of a block mapping, to its end. -/
def blockEntries : (fuel : Nat) → Source → Except ReadError (List (Node × Node) × Source)
  | 0, _ => .error .malformed
  | fuel + 1, s => do
    match s.peek with
    | some .key =>
      let (key, s) ← nodeUnless fuel [.key, .value, .blockEnd] .mapping s.next
      let (value, s) ←
        if s.isAt [.value] then nodeUnless fuel [.key, .value, .blockEnd] .mapping s.next
        else pure (.absent, s)
      let (entries, s) ← blockEntries fuel s
      return ((key, value) :: entries, s)
    | some .blockEnd => return ([], s.next)
    | _ => throw .malformed

/-- The items of a flow list, to its end. -/
def flowItems : (fuel : Nat) → (first : Bool) → Source → Except ReadError (List Node × Source)
  | 0, _, _ => .error .malformed
  | fuel + 1, first, s => do
    if s.isAt [.closeList] then return ([], s.next)
    let s ← if first then pure s else if s.isAt [.flowEntry] then pure s.next else throw .malformed
    if s.isAt [.closeList] then return ([], s.next)
    let (item, s) ←
      if s.isAt [.key] then do
        let (key, s) ← nodeUnless fuel [.value, .flowEntry, .closeList] .flow s.next
        let (value, s) ←
          if s.isAt [.value] then nodeUnless fuel [.flowEntry, .closeList] .flow s.next
          else pure (.absent, s)
        pure (Node.map .map [(key, value)], s)
      else node fuel .flow s
    let (items, s) ← flowItems fuel false s
    return (item :: items, s)

/-- The entries of a flow mapping, to its end. -/
def flowEntries : (fuel : Nat) → (first : Bool) → Source →
    Except ReadError (List (Node × Node) × Source)
  | 0, _, _ => .error .malformed
  | fuel + 1, first, s => do
    if s.isAt [.closeMap] then return ([], s.next)
    let s ← if first then pure s else if s.isAt [.flowEntry] then pure s.next else throw .malformed
    if s.isAt [.closeMap] then return ([], s.next)
    let (key, value, s) ←
      if s.isAt [.key] then do
        let (key, s) ← nodeUnless fuel [.value, .flowEntry, .closeMap] .flow s.next
        let (value, s) ←
          if s.isAt [.value] then nodeUnless fuel [.flowEntry, .closeMap] .flow s.next
          else pure (.absent, s)
        pure (key, value, s)
      else do
        let (key, s) ← node fuel .flow s
        pure (key, Node.absent, s)
    let (entries, s) ← flowEntries fuel false s
    return ((key, value) :: entries, s)

end

/-! ## Documents -/

def usualHandles : List (List Char × List Char) :=
  [(['!'], ['!']), (['!', '!'], kindUri.toList)]

/-- The directives before a document: at most one version, and no handle twice. -/
def directives : (versioned : Bool) → List (List Char × List Char) → List Token →
    Except ReadError (List (List Char × List Char) × List Token)
  | versioned, handles, .directive (.version major) :: rest =>
    if versioned || major != 1 then .error .malformed else directives true handles rest
  | versioned, handles, .directive (.tagHandle handle uri) :: rest =>
    if (handles.lookup handle).isSome then .error .malformed
    else directives versioned ((handle, uri) :: handles) rest
  | versioned, handles, .directive .unknown :: rest => directives versioned handles rest
  | _, handles, rest => .ok (handles, rest)

/-- Whether a document has no node: it ends before one begins. -/
def endsDocument : List Token → Bool
  | [] | .documentStart :: _ | .documentEnd :: _ | .directive _ :: _ => true
  | _ => false

/-- What may follow the one document of a text: marks that end it. -/
def endsText (ts : List Token) : Bool := ts.all (· == .documentEnd)

/-- The node of a text that holds at most one document. -/
def document (ts : List Token) : Except ReadError (Option Node) := do
  let fuel := 4 * ts.length + 4
  let finished (n : Node) (s : Source) : Except ReadError (Option Node) :=
    if endsText s.tokens then .ok (some n) else .error .malformed
  match ts with
  | [] => return none
  | .documentStart :: _ | .directive _ :: _ =>
    let (handles, rest) ← directives false [] ts
    match rest with
    | .documentStart :: rest =>
      let s : Source := { tokens := rest, handles := handles ++ usualHandles }
      if endsDocument rest then finished .absent s
      else
        let (n, s) ← node fuel .block s
        finished n s
    | _ => throw .malformed
  | _ =>
    let (n, s) ← node fuel .block { tokens := ts, handles := usualHandles }
    finished n s

end FolderTalk.Yaml
