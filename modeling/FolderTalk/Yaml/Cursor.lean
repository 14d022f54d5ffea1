import FolderTalk.Fault

/-!
# Places in a YAML text

A cursor is what is left of a text together with the line and column it stands at. At the end of
the text the cursor shows the null character, which no YAML text contains.
-/

namespace FolderTalk.Yaml

/-- Why a YAML text has no value. -/
inductive ReadError where
  /-- The text is no YAML text, or a value in it has no known kind. -/
  | malformed
  /-- A value looks like one of its kind, but there is no such value. -/
  | unfit (f : Fault)
  deriving DecidableEq, Repr

/-- Whether a character begins a new line. -/
def isBreak (c : Char) : Bool :=
  c == '\n' || c == '\r' || c == '\x85' || c == '\u2028' || c == '\u2029'

def isEnd (c : Char) : Bool := c == '\x00'

/-- Whether a word ends at a character. -/
def endsWord (c : Char) : Bool := c == ' ' || c == '\t' || isBreak c || isEnd c

def isSpaceOrTab (c : Char) : Bool := c == ' ' || c == '\t'

/-- The characters that a YAML text may hold. -/
def isPermitted (c : Char) : Bool :=
  let n := c.toNat
  n == 9 || n == 10 || n == 13 || (32 ≤ n && n ≤ 126) || n == 0x85 || (0xa0 ≤ n && n ≤ 0xd7ff)
    || (0xe000 ≤ n && n ≤ 0xfffd) || 0x10000 ≤ n

/-- A place in a text. -/
structure Cursor where
  rest : List Char
  index : Nat := 0
  line : Nat := 0
  column : Nat := 0
  deriving Inhabited

namespace Cursor

/-- The character at the cursor. -/
def peek (c : Cursor) : Char := c.rest.headD '\x00'

/-- The character `n` places further on. -/
def peekAt (c : Cursor) (n : Nat) : Char := (c.rest.drop n).headD '\x00'

/-- Moves over one character. A byte order mark takes no column. -/
def next (c : Cursor) : Cursor :=
  match c.rest with
  | [] => c
  | ch :: rest =>
    if (isBreak ch && ch != '\r') || (ch == '\r' && rest.headD '\x00' != '\n') then
      { rest := rest, index := c.index + 1, line := c.line + 1, column := 0 }
    else
      { rest := rest, index := c.index + 1, line := c.line
        column := if ch == '\ufeff' then c.column else c.column + 1 }

def skip : Nat → Cursor → Cursor
  | 0, c => c
  | n + 1, c => skip n c.next

/-- The longest run of characters with a property, and the place behind it. -/
def span (p : Char → Bool) (c : Cursor) : List Char × Cursor :=
  let run := c.rest.takeWhile p
  (run, c.skip run.length)

def skipWhile (p : Char → Bool) (c : Cursor) : Cursor := (c.span p).2

/-- Moves over a line break, if there is one; all but the two separators of Unicode count as a line
feed. -/
def lineBreak (c : Cursor) : List Char × Cursor :=
  match c.rest with
  | '\r' :: '\n' :: _ => (['\n'], c.skip 2)
  | ch :: _ =>
    if ch == '\u2028' || ch == '\u2029' then ([ch], c.next)
    else if isBreak ch then (['\n'], c.next)
    else ([], c)
  | [] => ([], c)

/-- Whether the cursor stands at three equal marks that end a word. -/
def atMarks (c : Cursor) (mark : Char) : Bool :=
  c.rest.take 3 == [mark, mark, mark] && endsWord (c.peekAt 3)

/-- Whether the cursor stands at a mark that separates documents. -/
def atSeparator (c : Cursor) : Bool := c.atMarks '-' || c.atMarks '.'

/-- Moves over blanks and a comment. -/
def skipComment (c : Cursor) : Cursor :=
  let c := c.skipWhile (· == ' ')
  if c.peek == '#' then c.skipWhile fun ch => !isBreak ch else c

/-- Moves over blanks and a comment to the next line; anything else on the line is refused. -/
def restOfLine (c : Cursor) : Except ReadError Cursor :=
  let c := c.skipComment
  if isBreak c.peek || isEnd c.peek then .ok c.lineBreak.2 else .error .malformed

end Cursor

end FolderTalk.Yaml
