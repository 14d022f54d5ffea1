import FolderTalk.Yaml.Style

/-!
# Pages of YAML text

A page is the text written so far and what has to be known about its last line: how long it is,
whether a blank stands at its end, and whether it holds nothing but blanks and block marks. Long
scalars are folded at the blanks between their words.
-/

namespace FolderTalk.Yaml

/-- Lines longer than this are folded. -/
def lineWidth : Nat := 80

/-- The text written so far. -/
structure Page where
  /-- The characters, the last one first. -/
  text : List Char := []
  column : Nat := 0
  /-- Whether the line ends with a blank or has not begun. -/
  spaced : Bool := true
  /-- Whether the line holds nothing but blanks and block marks. -/
  margin : Bool := true

namespace Page

/-- Writes characters of one line. -/
def put (p : Page) (cs : List Char) : Page :=
  { p with text := cs.reverse ++ p.text, column := p.column + cs.length }

def newLine (p : Page) : Page :=
  { text := '\n' :: p.text, column := 0, spaced := true, margin := true }

/-- Goes to a column of a line on which nothing else stands, of a new one if need be. -/
def indent (p : Page) (column : Nat) : Page :=
  let p := if !p.margin || p.column > column || (p.column == column && !p.spaced) then p.newLine
    else p
  if p.column < column then
    { p.put (List.replicate (column - p.column) ' ') with spaced := true }
  else p

/-- Writes a mark, after a blank if `apart`. -/
def mark (p : Page) (cs : List Char) (apart spaced margin : Bool) : Page :=
  { p.put (if p.spaced || !apart then cs else ' ' :: cs) with
    spaced := spaced, margin := p.margin && margin }

/-- Continues a scalar on a new line. -/
def fold (p : Page) (column : Nat) : Page :=
  { p.indent column with spaced := false, margin := false }

/-! ## Plain scalars -/

/-- Maximal runs of blanks, of line feeds and of other characters. -/
def runs : List Char → List (List Char)
  | [] => []
  | c :: cs =>
    match runs cs with
    | [] => [[c]]
    | run :: rest =>
      if sort c == sort (run.headD c) then (c :: run) :: rest else [c] :: run :: rest
where
  sort (c : Char) : Nat := if c == ' ' then 0 else if c == '\n' then 1 else 2

/-- Writes the runs of a plain scalar; a single blank beyond the line's width becomes a line
break. -/
def plainRuns (split : Bool) (column : Nat) : Page → List (List Char) → Page
  | p, [] => p
  | p, run :: rest =>
    if run == [' '] && p.column > lineWidth && split then plainRuns split column (p.fold column) rest
    else plainRuns split column (p.put run) rest

def plain (p : Page) (split : Bool) (column : Nat) (cs : List Char) : Page :=
  if cs.isEmpty then p
  else
    let p := if p.spaced then p else p.put [' ']
    plainRuns split column { p with spaced := false, margin := false } (runs cs)

/-! ## Scalars between single quotes -/

def doubledQuotes (cs : List Char) : List Char :=
  cs.flatMap fun c => if c == '\'' then ['\'', '\''] else [c]

def newLines : Nat → Page → Page
  | 0, p => p
  | n + 1, p => newLines n p.newLine

/-- Writes the runs of a quoted scalar; a single blank between words beyond the line's width becomes
a line break, and line feeds are written with one more. -/
def singleRuns (split : Bool) (column : Nat) : (first : Bool) → Page → List (List Char) → Page
  | _, p, [] => p
  | first, p, run :: rest =>
    if run.head? == some '\n' then
      singleRuns split column false ((newLines (run.length + 1) p).indent column) rest
    else if run == [' '] && p.column > lineWidth && split && !first && !rest.isEmpty then
      singleRuns split column false (p.indent column) rest
    else singleRuns split column false (p.put (doubledQuotes run)) rest

def single (p : Page) (split : Bool) (column : Nat) (cs : List Char) : Page :=
  (singleRuns split column true (p.mark ['\''] true false false) (runs cs)).mark ['\'']
    false false false

/-! ## Scalars between double quotes -/

/-- At least `width` hexadecimal digits in capitals. -/
def capitalHex (width n : Nat) : List Char := asciiRaised (Text.hexDigits width n)

/-- The letter that stands for a character after a backslash. -/
def escapeLetter? (c : Char) : Option Char :=
  List.lookup c
    [('\x00', '0'), ('\x07', 'a'), ('\x08', 'b'), ('\t', 't'), ('\n', 'n'), ('\x0b', 'v'),
     ('\x0c', 'f'), ('\r', 'r'), ('\x1b', 'e'), ('"', '"'), ('\\', '\\'), ('\x85', 'N'),
     ('\xa0', '_'), ('\u2028', 'L'), ('\u2029', 'P')]

def escaped (c : Char) : List Char :=
  match escapeLetter? c with
  | some e => ['\\', e]
  | none =>
    if c.toNat ≤ 0xff then '\\' :: 'x' :: capitalHex 2 c.toNat
    else if c.toNat ≤ 0xffff then '\\' :: 'u' :: capitalHex 4 c.toNat
    else '\\' :: 'U' :: capitalHex 8 c.toNat

def needsEscape (c : Char) : Bool := c == '"' || c == '\\' || !(' ' ≤ c && c ≤ '~')

/-- Writes the characters of a scalar. `held` are those that are not yet on the page, the last one
first. A line is broken with a backslash before a blank or behind an escaped character; a blank
that begins the next line has a backslash too. -/
def doubleChars (split : Bool) (column : Nat) : (first : Bool) → Page → (held : List Char) →
    List Char → Page
  | _, p, held, [] => p.put held.reverse
  | first, p, held, c :: rest =>
    let mayBreak := !first && !rest.isEmpty && split
    if needsEscape c then
      let p := (p.put held.reverse).put (escaped c)
      let p := if mayBreak && p.column > lineWidth + 1 then
          guarded (rest.headD 'x') ((p.put ['\\']).fold column)
        else p
      doubleChars split column false p [] rest
    else if mayBreak && (c == ' ' || held.isEmpty) && p.column + held.length > lineWidth then
      let p := guarded c ((p.put (held.reverse ++ ['\\'])).fold column)
      doubleChars split column false p [c] rest
    else doubleChars split column false p (c :: held) rest
where
  /-- A backslash in front of a blank that begins a line. -/
  guarded (c : Char) (p : Page) : Page := if c == ' ' then p.put ['\\'] else p

def double (p : Page) (split : Bool) (column : Nat) (cs : List Char) : Page :=
  (doubleChars split column true (p.mark ['"'] true false false) [] cs).mark ['"'] false false false

/-- Writes a scalar in a style; further lines of it begin at `column`. -/
def scalar (p : Page) (style : Style) (split : Bool) (column : Nat) (cs : List Char) : Page :=
  match style with
  | .plain => p.plain split column cs
  | .single => p.single split column cs
  | .double => p.double split column cs

end Page

end FolderTalk.Yaml
