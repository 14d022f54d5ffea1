import FolderTalk.Terminal.Cells
import FolderTalk.Text.Blank

/-!
# Lines of a limited width

A text is set in lines: its own line breaks are kept, tabs are expanded, and a line that is too
wide is broken between words. A word that is wider than the line is folded over several lines, or
cut with an ellipsis.
-/

namespace FolderTalk.Terminal

open Text

/-- What is done with a word that is wider than the line. -/
inductive Overflow where
  | fold | ellipsis
  deriving DecidableEq, Repr

/-- The text cut at line feeds. -/
def splitLines (cs : List Char) : List (List Char) := cs.splitOn '\n'

/-- The words of a line, each with the white space after it, the first one also with the white space
before it; `word` is the one being read, last character first, and `gap` says that its end has been
seen. A line of white space alone has no words. -/
def spacedWordsFrom (word : List Char) (gap : Bool) : List Char → List (List Char)
  | [] => if word.all isBlank then [] else [word.reverse]
  | c :: cs =>
    if isBlank c then spacedWordsFrom (c :: word) (!word.all isBlank) cs
    else if gap then word.reverse :: spacedWordsFrom [c] false cs
    else spacedWordsFrom (c :: word) false cs

def spacedWords (cs : List Char) : List (List Char) := spacedWordsFrom [] false cs

/-- Puts words on lines; `line` is the one being filled. -/
def fill (n : Nat) (overflow : Overflow) : (line : List Char) → List (List Char) → List (List Char)
  | line, [] => [line]
  | line, word :: words =>
    let needed := width (trimEnd word)
    if width line + needed ≤ n then fill n overflow (line ++ word) words
    else
      let before := if line.isEmpty then [] else [line]
      if overflow == .fold && n < needed then
        let pieces := chop n word
        before ++ pieces.dropLast ++ fill n overflow (pieces.getLastD []) words
      else before ++ fill n overflow word words

/-- Brings one line to at most `n` columns; white space at its end goes first. -/
def shorten (n : Nat) (overflow : Overflow) (cs : List Char) : List Char :=
  let spare := (cs.reverse.takeWhile isBlank).length
  let cs := cs.take (cs.length - min spare (cs.length - n))
  if width cs ≤ n then cs
  else
    match overflow with
    | .fold => fit n cs
    | .ellipsis => fit (n - 1) cs ++ ['…']

/-- The lines of a text of at most `n` columns. -/
def wrap (n : Nat) (overflow : Overflow) (cs : List Char) : List (List Char) :=
  (splitLines cs).flatMap fun line =>
    let line := expandTabs line
    let lines := if (spacedWords line).isEmpty then [line] else fill n overflow [] (spacedWords line)
    lines.map (shorten n overflow)

/-- The columns of the terminal. -/
def screenWidth : Nat := 1000

end FolderTalk.Terminal
