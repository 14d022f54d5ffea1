import FolderTalk.Yaml.Scalar
import FolderTalk.Yaml.Token

/-!
# Cutting YAML text into tokens

The lexer keeps the indentation of the open blocks. A node that may turn out to be a key without a
mark is remembered until a colon confirms it or the line ends; the tokens for the key are then put
in front of it.
-/

namespace FolderTalk.Yaml

/-- A node that a colon may turn into a key. -/
structure PossibleKey where
  /-- The number of tokens before the node. -/
  position : Nat
  /-- Whether the node can be nothing else than a key. -/
  required : Bool
  start : Cursor

/-- A lexer at work. -/
structure Lexer where
  cursor : Cursor
  /-- The tokens found so far, the newest first. -/
  tokens : List Token := []
  flowDepth : Nat := 0
  /-- The column of the innermost block, and those of the blocks around it. -/
  indent : Int := -1
  outer : List Int := []
  /-- Whether a key without a mark may begin here. -/
  allowKey : Bool := true
  /-- The possible key of each depth of flow collections that has one. -/
  keys : List (Nat × PossibleKey) := []

namespace Lexer

def emit (l : Lexer) (t : Token) : Lexer := { l with tokens := t :: l.tokens }

/-- Puts a token in front of the one at a position. -/
def insert (l : Lexer) (position : Nat) (t : Token) : Lexer :=
  let later := l.tokens.length - position
  { l with tokens := l.tokens.take later ++ t :: l.tokens.drop later }

def move (l : Lexer) (n : Nat) : Lexer := { l with cursor := l.cursor.skip n }

def inFlow (l : Lexer) : Bool := l.flowDepth != 0

/-- Closes the blocks that are indented further than a column. -/
def unwind (column : Int) (l : Lexer) : Lexer :=
  if l.inFlow then l else go l.outer l
where
  go : List Int → Lexer → Lexer
    | [], l => l
    | outer :: rest, l =>
      if l.indent > column then go rest ({ l with indent := outer, outer := rest }.emit .blockEnd)
      else l

/-- Opens a block at a column, if it is indented further than the innermost one. -/
def openBlock (l : Lexer) (column : Nat) (mark : Lexer → Lexer) : Lexer :=
  if l.indent < column then mark { l with indent := column, outer := l.indent :: l.outer } else l

/-- Gives up possible keys whose line is over or that are too long ago. -/
def dropStaleKeys (l : Lexer) : Except ReadError Lexer :=
  let stale (k : Nat × PossibleKey) : Bool :=
    k.2.start.line != l.cursor.line || l.cursor.index > k.2.start.index + 1024
  if l.keys.any fun k => stale k && k.2.required then .error .malformed
  else .ok { l with keys := l.keys.filter fun k => !stale k }

/-- Gives up the possible key of the present depth. -/
def dropKey (l : Lexer) : Except ReadError Lexer :=
  match l.keys.lookup l.flowDepth with
  | none => .ok l
  | some k =>
    if k.required then .error .malformed
    else .ok { l with keys := l.keys.filter fun k => k.1 != l.flowDepth }

/-- Notes that a key may begin here. -/
def noteKey (l : Lexer) : Except ReadError Lexer :=
  if l.allowKey then do
    let required := !l.inFlow && l.indent == l.cursor.column
    let l ← l.dropKey
    return { l with keys := (l.flowDepth, ⟨l.tokens.length, required, l.cursor⟩) :: l.keys }
  else .ok l

/-- Moves over blanks, comments and line breaks. -/
def skipToToken : (fuel : Nat) → Lexer → Lexer
  | 0, l => l
  | fuel + 1, l =>
    let c := l.cursor.skipComment
    if isBreak c.peek then
      skipToToken fuel { l with cursor := c.lineBreak.2, allowKey := l.allowKey || !l.inFlow }
    else { l with cursor := c }

/-- Ends what is open, before the end of a document. -/
def endDocument (l : Lexer) : Except ReadError Lexer := do
  let l ← (l.unwind (-1)).dropKey
  return { l with allowKey := false }

/-! ## Names and directives -/

def isNameChar (c : Char) : Bool :=
  ('0' ≤ c && c ≤ '9') || ('a' ≤ c && c ≤ 'z') || ('A' ≤ c && c ≤ 'Z') || c == '-' || c == '_'

def endsLineWord (c : Char) : Bool := c == ' ' || isBreak c || isEnd c

/-- The name after the mark of an anchor or an alias. -/
def anchorName (c : Cursor) : Except ReadError (List Char × Cursor) :=
  let (name, c) := c.next.span isNameChar
  if name.isEmpty || !(endsWord c.peek || "?:,]\x7d%@\x60".toList.contains c.peek) then
    .error .malformed
  else .ok (name, c)

def isUriChar (c : Char) : Bool := isNameChar c || "-;/?:@&=+$,_.!~*'()[]".toList.contains c

/-- The bytes that percent signs with two digits give. -/
def percentBytes : (fuel : Nat) → List UInt8 → Cursor → Except ReadError (List UInt8 × Cursor)
  | 0, bytes, c => .ok (bytes.reverse, c)
  | fuel + 1, bytes, c =>
    if c.peek != '%' then .ok (bytes.reverse, c)
    else
      match hexValue? (c.peekAt 1), hexValue? (c.peekAt 2) with
      | some a, some b => percentBytes fuel ((a * 16 + b).toUInt8 :: bytes) (c.skip 3)
      | _, _ => .error .malformed

/-- The name of a kind, with escaped bytes in it. -/
def uriParts : (fuel : Nat) → List Char → Cursor → Except ReadError (List Char × Cursor)
  | 0, done, c => .ok (done, c)
  | fuel + 1, done, c => do
    let (run, c) := c.span isUriChar
    let done := done ++ run
    if c.peek == '%' then
      let (bytes, c) ← percentBytes (c.rest.length + 1) [] c
      match String.fromUTF8? ⟨bytes.toArray⟩ with
      | some s => uriParts fuel (done ++ s.toList) c
      | none => throw .malformed
    else return (done, c)

def uri (c : Cursor) : Except ReadError (List Char × Cursor) := do
  let (name, c) ← uriParts (c.rest.length + 1) [] c
  if name.isEmpty then throw .malformed else return (name, c)

/-- A handle: an exclamation mark, or a name between two of them. -/
def handle (c : Cursor) : Except ReadError (List Char × Cursor) :=
  if c.peek != '!' then .error .malformed
  else if c.peekAt 1 == ' ' then .ok (['!'], c.next)
  else
    let (name, c) := c.next.span isNameChar
    if c.peek == '!' then .ok ('!' :: (name ++ ['!']), c.next) else .error .malformed

/-- Whether an exclamation mark comes before the end of the word. -/
def hasLaterMark (cs : List Char) : Bool := (cs.takeWhile fun c => !endsLineWord c).contains '!'

/-- The tag at the cursor. -/
def tagToken (c : Cursor) : Except ReadError (Token × Cursor) := do
  let (token, c) ←
    if c.peekAt 1 == '<' then do
      let (name, c) ← uri (c.skip 2)
      if c.peek == '>' then pure (Token.tag none name, c.next) else throw ReadError.malformed
    else if endsWord (c.peekAt 1) then pure (Token.tag none ['!'], c.next)
    else do
      let (h, c) ← if hasLaterMark (c.rest.drop 1) then handle c else pure (['!'], c.next)
      let (suffix, c) ← uri c
      pure (Token.tag (some h) suffix, c)
  if endsLineWord c.peek then return (token, c) else throw .malformed

/-- A row of digits. -/
def digits (c : Cursor) : Except ReadError (Nat × Cursor) :=
  let (run, c) := c.span fun ch => '0' ≤ ch && ch ≤ '9'
  if run.isEmpty then .error .malformed else .ok (Numeral.digitsValue run, c)

/-- The directive at the cursor. -/
def directive (c : Cursor) : Except ReadError (Directive × Cursor) := do
  let (name, c) := c.next.span isNameChar
  if name.isEmpty || !endsLineWord c.peek then throw .malformed
  let blank := fun ch => ch == ' '
  let (d, c) ←
    if name == "YAML".toList then do
      let (major, c) ← digits (c.skipWhile blank)
      if c.peek != '.' then throw ReadError.malformed
      let (_, c) ← digits c.next
      if endsLineWord c.peek then pure (Directive.version major, c) else throw ReadError.malformed
    else if name == "TAG".toList then do
      let (h, c) ← handle (c.skipWhile blank)
      if c.peek != ' ' then throw ReadError.malformed
      let (name, c) ← uri (c.skipWhile blank)
      if endsLineWord c.peek then pure (Directive.tagHandle h name, c) else throw ReadError.malformed
    else pure (Directive.unknown, c.skipWhile fun ch => !isBreak ch)
  return (d, ← c.restOfLine)

/-! ## One token -/

/-- A node of one token, which may turn out to be a key. -/
def leaf (l : Lexer) (read : Lexer → Except ReadError (Token × Bool × Cursor)) :
    Except ReadError Lexer := do
  let l ← l.noteKey
  let (token, allowKey, c) ← read l
  return { l with cursor := c, allowKey := allowKey }.emit token

def openFlow (l : Lexer) (t : Token) : Except ReadError Lexer := do
  let l ← l.noteKey
  return { l with flowDepth := l.flowDepth + 1, allowKey := true }.move 1 |>.emit t

def closeFlow (l : Lexer) (t : Token) : Except ReadError Lexer := do
  let l ← l.dropKey
  return { l with flowDepth := l.flowDepth - 1, allowKey := false }.move 1 |>.emit t

def blockEntry (l : Lexer) : Except ReadError Lexer := do
  if !l.inFlow && !l.allowKey then throw .malformed
  let l := if l.inFlow then l else l.openBlock l.cursor.column (·.emit .blockList)
  let l ← { l with allowKey := true }.dropKey
  return (l.move 1).emit .blockEntry

/-- A key with a question mark. -/
def markedKey (l : Lexer) : Except ReadError Lexer := do
  if !l.inFlow && !l.allowKey then throw .malformed
  let l := if l.inFlow then l else l.openBlock l.cursor.column (·.emit .blockMap)
  let l ← { l with allowKey := !l.inFlow }.dropKey
  return (l.move 1).emit .key

/-- A colon: it confirms a possible key, or stands on its own. -/
def colon (l : Lexer) : Except ReadError Lexer := do
  match l.keys.lookup l.flowDepth with
  | some k =>
    let l := { l with keys := l.keys.filter fun k => k.1 != l.flowDepth }.insert k.position .key
    let l := if l.inFlow then l else l.openBlock k.start.column (·.insert k.position .blockMap)
    return ({ l with allowKey := false }.move 1).emit .value
  | none =>
    if !l.inFlow && !l.allowKey then throw .malformed
    let l := if l.inFlow then l else l.openBlock l.cursor.column (·.emit .blockMap)
    let l ← { l with allowKey := !l.inFlow }.dropKey
    return (l.move 1).emit .value

def block (l : Lexer) (fold : Bool) : Except ReadError Lexer := do
  let l ← { l with allowKey := true }.dropKey
  let (text, c) ← blockScalar fold l.indent l.cursor
  return { l with cursor := c }.emit (.scalar text false)

/-- Whether a plain scalar may begin at the cursor. -/
def beginsPlain (l : Lexer) : Bool :=
  let ch := l.cursor.peek
  !(endsWord ch || "-?:,[]\x7b\x7d#&*!|>'\"%@\x60".toList.contains ch)
    || (!endsWord (l.cursor.peekAt 1) && (ch == '-' || (!l.inFlow && (ch == '?' || ch == ':'))))

/-- Reads the token that begins at the cursor. -/
def token (l : Lexer) : Except ReadError Lexer :=
  let c := l.cursor
  let ch := c.peek
  let wordEnds := endsWord (c.peekAt 1)
  if ch == '%' && c.column == 0 then do
    let l ← l.endDocument
    let (d, c) ← directive l.cursor
    return { l with cursor := c }.emit (.directive d)
  else if c.column == 0 && c.atMarks '-' then do
    return ((← l.endDocument).move 3).emit .documentStart
  else if c.column == 0 && c.atMarks '.' then do
    return ((← l.endDocument).move 3).emit .documentEnd
  else if ch == '[' then l.openFlow .openList
  else if ch == '\x7b' then l.openFlow .openMap
  else if ch == ']' then l.closeFlow .closeList
  else if ch == '\x7d' then l.closeFlow .closeMap
  else if ch == ',' then do
    let l ← { l with allowKey := true }.dropKey
    return (l.move 1).emit .flowEntry
  else if ch == '-' && wordEnds then l.blockEntry
  else if ch == '?' && (l.inFlow || wordEnds) then l.markedKey
  else if ch == ':' && (l.inFlow || wordEnds) then l.colon
  else if ch == '*' then
    l.leaf fun l => (anchorName l.cursor).map fun (name, c) => (.alias name, false, c)
  else if ch == '&' then
    l.leaf fun l => (anchorName l.cursor).map fun (name, c) => (.anchor name, false, c)
  else if ch == '!' then
    l.leaf fun l => (tagToken l.cursor).map fun (t, c) => (t, false, c)
  else if ch == '|' && !l.inFlow then l.block false
  else if ch == '>' && !l.inFlow then l.block true
  else if ch == '\'' || ch == '"' then
    l.leaf fun l => (quotedScalar (ch == '"') l.cursor).map fun (text, c) =>
      (.scalar text false, false, c)
  else if l.beginsPlain then
    l.leaf fun l =>
      let (text, broken, c) := plainScalar l.inFlow (l.indent + 1) l.cursor
      .ok (.scalar text true, broken, c)
  else .error .malformed

/-- Reads tokens to the end of the text. -/
def run : (fuel : Nat) → Lexer → Except ReadError Lexer
  | 0, _ => .error .malformed
  | fuel + 1, l => do
    let l ← (l.skipToToken (l.cursor.rest.length + 1)).dropStaleKeys
    let l := l.unwind l.cursor.column
    if isEnd l.cursor.peek then l.endDocument
    else run fuel (← l.token)

end Lexer

/-- The tokens of a text. -/
def tokens (s : String) : Except ReadError (List Token) :=
  let cs := s.toList
  if cs.all isPermitted then do
    let start : Cursor := { rest := cs }
    let start := if start.peek == '\ufeff' then start.next else start
    return (← Lexer.run (cs.length + 1) { cursor := start }).tokens.reverse
  else .error .malformed

end FolderTalk.Yaml
