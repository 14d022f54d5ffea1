import FolderTalk.Number.Numeral
import FolderTalk.Yaml.Cursor

/-!
# The texts of YAML scalars

A scalar is written plain, between quotes, or as a block of lines. Inside plain and quoted scalars a
single line break counts as a blank and further ones as line breaks.
-/

namespace FolderTalk.Yaml

/-- What line breaks inside a scalar stand for: the first one and those after it. -/
def folded (first others : List Char) : List Char :=
  (if first != ['\n'] then first else if others.isEmpty then [' '] else []) ++ others

/-! ## Quoted scalars -/

/-- The line breaks from the cursor on; no document may end inside quotes. -/
def quotedBreaks : (fuel : Nat) → List Char → Cursor → Except ReadError (List Char × Cursor)
  | 0, done, c => .ok (done, c)
  | fuel + 1, done, c =>
    if c.atSeparator then .error .malformed
    else
      let c := c.skipWhile isSpaceOrTab
      if isBreak c.peek then
        let (b, c) := c.lineBreak
        quotedBreaks fuel (done ++ b) c
      else .ok (done, c)

/-- White space between two words in quotes. -/
def quotedSpace (c : Cursor) : Except ReadError (List Char × Cursor) :=
  let (blanks, c) := c.span isSpaceOrTab
  if isEnd c.peek then .error .malformed
  else if isBreak c.peek then do
    let (first, c) := c.lineBreak
    let (others, c) ← quotedBreaks (c.rest.length + 1) [] c
    return (folded first others, c)
  else .ok (blanks, c)

/-- The character that a letter after a backslash stands for. -/
def escapedChar? (c : Char) : Option Char :=
  List.lookup c
    [('0', '\x00'), ('a', '\x07'), ('b', '\x08'), ('t', '\t'), ('\t', '\t'), ('n', '\n'),
     ('v', '\x0b'), ('f', '\x0c'), ('r', '\r'), ('e', '\x1b'), (' ', ' '), ('"', '"'),
     ('\\', '\\'), ('/', '/'), ('N', '\x85'), ('_', '\xa0'), ('L', '\u2028'), ('P', '\u2029')]

/-- How many hexadecimal digits follow a letter after a backslash. -/
def escapeWidth? (c : Char) : Option Nat := List.lookup c [('x', 2), ('u', 4), ('U', 8)]

def hexValue? (c : Char) : Option Nat :=
  if '0' ≤ c && c ≤ '9' then some (c.toNat - 48)
  else if 'a' ≤ c && c ≤ 'f' then some (c.toNat - 87)
  else if 'A' ≤ c && c ≤ 'F' then some (c.toNat - 55)
  else none

/-- The number that hexadecimal digits denote. -/
def hexNumber? (cs : List Char) : Option Nat :=
  (cs.mapM hexValue?).map fun digits => digits.foldl (fun n d => n * 16 + d) 0

/-- The character with a code. -/
def charOfCode (code : Nat) : Except ReadError Char :=
  if code < 0x110000 then
    .ok (if 0xd800 ≤ code && code < 0xe000 then '\ufffd' else Char.ofNat code)
  else .error (.unfit (if code < Nat.pow 2 31 then .noSuchCode else .oversizedCode))

/-- A word inside quotes, up to white space or the closing quote. -/
def quotedWord (double : Bool) : (fuel : Nat) → List Char → Cursor →
    Except ReadError (List Char × Cursor)
  | 0, done, c => .ok (done, c)
  | fuel + 1, done, c =>
    let (run, c) := c.span fun ch => ch != '\'' && ch != '"' && ch != '\\' && !endsWord ch
    let done := done ++ run
    let ch := c.peek
    if !double && ch == '\'' && c.peekAt 1 == '\'' then
      quotedWord double fuel (done ++ ['\'']) (c.skip 2)
    else if (double && ch == '\'') || (!double && (ch == '"' || ch == '\\')) then
      quotedWord double fuel (done ++ [ch]) c.next
    else if double && ch == '\\' then
      let c := c.next
      match escapedChar? c.peek, escapeWidth? c.peek with
      | some e, _ => quotedWord double fuel (done ++ [e]) c.next
      | none, some width =>
        match hexNumber? ((c.rest.drop 1).take width) with
        | none => .error .malformed
        | some code =>
          if (c.rest.drop 1).length < width then .error .malformed
          else
            match charOfCode code with
            | .ok e => quotedWord double fuel (done ++ [e]) (c.skip (width + 1))
            | .error err => .error err
      | none, none =>
        if isBreak c.peek then
          match quotedBreaks (c.rest.length + 1) [] c.lineBreak.2 with
          | .ok (b, c) => quotedWord double fuel (done ++ b) c
          | .error err => .error err
        else .error .malformed
    else .ok (done, c)

/-- The words up to the closing quote. -/
def quotedWords (double : Bool) : (fuel : Nat) → List Char → Cursor →
    Except ReadError (List Char × Cursor)
  | 0, _, _ => .error .malformed
  | fuel + 1, done, c => do
    let (word, c) ← quotedWord double (c.rest.length + 1) done c
    if c.peek == (if double then '"' else '\'') then return (word, c.next)
    else
      let (space, c) ← quotedSpace c
      quotedWords double fuel (word ++ space) c

/-- A quoted scalar that begins at the cursor. -/
def quotedScalar (double : Bool) (c : Cursor) : Except ReadError (List Char × Cursor) :=
  quotedWords double (c.rest.length + 1) [] c.next

/-! ## Plain scalars -/

def isFlowMark (c : Char) : Bool := c == ',' || c == '[' || c == ']' || c == '\x7b' || c == '\x7d'

/-- A word of a plain scalar. A colon ends it only before the end of a word, and inside a flow
collection the collection's marks end it too. -/
def plainWord (flow : Bool) : List Char → List Char
  | [] => []
  | ch :: rest =>
    let after := rest.headD '\x00'
    if endsWord ch || (ch == ':' && (endsWord after || (flow && isFlowMark after)))
      || (flow && (isFlowMark ch || ch == '?')) then []
    else ch :: plainWord flow rest

/-- The line breaks inside a plain scalar, `none` where a document ends. -/
def plainBreaks : (fuel : Nat) → List Char → Cursor → Option (List Char) × Cursor
  | 0, done, c => (some done, c)
  | fuel + 1, done, c =>
    if c.peek == ' ' then plainBreaks fuel done c.next
    else if isBreak c.peek then
      let (b, c) := c.lineBreak
      if c.atSeparator then (none, c) else plainBreaks fuel (done ++ b) c
    else (some done, c)

/-- White space after a word of a plain scalar, and whether there is a line break in it. -/
def plainSpace (c : Cursor) : List Char × Bool × Cursor :=
  let (blanks, c) := c.span (· == ' ')
  if isBreak c.peek then
    let (first, c) := c.lineBreak
    if c.atSeparator then ([], true, c)
    else
      match plainBreaks (c.rest.length + 1) [] c with
      | (none, c) => ([], true, c)
      | (some others, c) => (folded first others, true, c)
  else (blanks, false, c)

/-- The words of a plain scalar; outside of flow collections its further lines are indented by at
least `indent`. The truth value says whether the scalar is followed by a line break. -/
def plainWords (flow : Bool) (indent : Int) : (fuel : Nat) → (broken : Bool) →
    (space done : List Char) → Cursor → List Char × Bool × Cursor
  | 0, broken, _, done, c => (done, broken, c)
  | fuel + 1, broken, space, done, c =>
    let word := if c.peek == '#' then [] else plainWord flow c.rest
    if word.isEmpty then (done, broken, c)
    else
      let done := done ++ space ++ word
      let (space, broken, c) := plainSpace (c.skip word.length)
      if space.isEmpty || c.peek == '#' || (!flow && (c.column : Int) < indent) then
        (done, broken, c)
      else plainWords flow indent fuel broken space done c

def plainScalar (flow : Bool) (indent : Int) (c : Cursor) : List Char × Bool × Cursor :=
  plainWords flow indent (c.rest.length + 1) false [] [] c

/-! ## Block scalars -/

/-- The mark for the line breaks at the end of a block: kept or dropped. -/
def chomping? (c : Cursor) : Option Bool :=
  if c.peek == '+' then some true else if c.peek == '-' then some false else none

/-- A digit for the indentation of a block; it may not be zero. -/
def indentation? (c : Cursor) : Except ReadError (Option Nat) :=
  if c.peek == '0' then .error .malformed
  else .ok (if '1' ≤ c.peek && c.peek ≤ '9' then some (c.peek.toNat - 48) else none)

/-- The marks after the one that begins a block, in either order. -/
def blockMarks (c : Cursor) : Except ReadError (Option Bool × Option Nat × Cursor) := do
  match chomping? c with
  | some keep =>
    let c := c.next
    match ← indentation? c with
    | some n => return (some keep, some n, c.next)
    | none => return (some keep, none, c)
  | none =>
    match ← indentation? c with
    | some n =>
      let c := c.next
      match chomping? c with
      | some keep => return (some keep, some n, c.next)
      | none => return (none, some n, c)
    | none => return (none, none, c)

/-- The line breaks at the start of a block and the widest indentation among them. -/
def leadingBreaks : (fuel : Nat) → (widest : Nat) → List Char → Cursor → List Char × Nat × Cursor
  | 0, widest, done, c => (done, widest, c)
  | fuel + 1, widest, done, c =>
    if c.peek == ' ' then
      let c := c.next
      leadingBreaks fuel (max widest c.column) done c
    else if isBreak c.peek then
      let (b, c) := c.lineBreak
      leadingBreaks fuel widest (done ++ b) c
    else (done, widest, c)

def skipIndent (indent : Nat) : (fuel : Nat) → Cursor → Cursor
  | 0, c => c
  | fuel + 1, c =>
    if c.column < indent && c.peek == ' ' then skipIndent indent fuel c.next else c

/-- The line breaks before a line of a block. -/
def blockBreaks (indent : Nat) : (fuel : Nat) → List Char → Cursor → List Char × Cursor
  | 0, done, c => (done, c)
  | fuel + 1, done, c =>
    let c := skipIndent indent indent c
    if isBreak c.peek then
      let (b, c) := c.lineBreak
      blockBreaks indent fuel (done ++ b) c
    else (done, c)

/-- The lines of a block: their text, the last line break and the breaks after it. -/
def blockLines (fold : Bool) (indent : Nat) : (fuel : Nat) → (done breaks : List Char) → Cursor →
    List Char × List Char × List Char × Cursor
  | 0, done, breaks, c => (done, [], breaks, c)
  | fuel + 1, done, breaks, c =>
    let leading := !isSpaceOrTab c.peek
    let (line, c) := c.span fun ch => !isBreak ch
    let done := done ++ breaks ++ line
    let (last, c) := c.lineBreak
    let (breaks, c) := blockBreaks indent (c.rest.length + 1) [] c
    if c.column == indent && !isEnd c.peek then
      let joint :=
        if fold && last == ['\n'] && leading && !isSpaceOrTab c.peek then
          if breaks.isEmpty then [' '] else []
        else last
      blockLines fold indent fuel (done ++ joint) breaks c
    else (done, last, breaks, c)

/-- A block scalar that begins at the cursor, inside a collection indented by `outer`. -/
def blockScalar (fold : Bool) (outer : Int) (c : Cursor) : Except ReadError (List Char × Cursor) := do
  let (chomping, increment, c) ← blockMarks c.next
  if !(c.peek == ' ' || isBreak c.peek || isEnd c.peek) then throw .malformed
  let c ← c.restOfLine
  let least := (max (outer + 1) 1).toNat
  let (breaks, indent, c) := match increment with
    | none =>
      let (breaks, widest, c) := leadingBreaks (c.rest.length + 1) 0 [] c
      (breaks, max least widest, c)
    | some n =>
      let indent := least + n - 1
      let (breaks, c) := blockBreaks indent (c.rest.length + 1) [] c
      (breaks, indent, c)
  let (text, last, breaks, c) :=
    if c.column == indent && !isEnd c.peek then
      blockLines fold indent (c.rest.length + 1) [] breaks c
    else ([], [], breaks, c)
  return (text ++ (if chomping == some false then [] else last)
    ++ (if chomping == some true then breaks else []), c)

end FolderTalk.Yaml
