/-!
# White space

What counts as white space in a command or a name, and what is done with it: both ends of a text
are trimmed, inner runs are squeezed to one separator, and a text is cut into its words.
-/

namespace FolderTalk.Text

/-- The white space of Unicode together with the four information separators. -/
def isBlank (c : Char) : Bool :=
  let n := c.toNat
  (9 ≤ n && n ≤ 13) || (28 ≤ n && n ≤ 32) || n == 0x85 || n == 0xa0 || n == 0x1680
    || (0x2000 ≤ n && n ≤ 0x200a) || n == 0x2028 || n == 0x2029 || n == 0x202f || n == 0x205f
    || n == 0x3000

def trimStart (cs : List Char) : List Char := cs.dropWhile isBlank

def trimEnd (cs : List Char) : List Char := (trimStart cs.reverse).reverse

/-- The text without the white space at its two ends. -/
def trim (cs : List Char) : List Char := trimEnd (trimStart cs)

/-- Each run of white space becomes one `sep`; `inRun` says that the run has begun. -/
def squeezeFrom (sep : Char) : (inRun : Bool) → List Char → List Char
  | _, [] => []
  | inRun, c :: cs =>
    if isBlank c then
      if inRun then squeezeFrom sep true cs else sep :: squeezeFrom sep true cs
    else c :: squeezeFrom sep false cs

/-- Every maximal run of white space replaced by one `sep`. -/
def squeeze (sep : Char) (cs : List Char) : List Char := squeezeFrom sep false cs

/-- The maximal stretches without white space; `word` is the one being read, last character
first. -/
def wordsFrom (word : List Char) : List Char → List (List Char)
  | [] => if word.isEmpty then [] else [word.reverse]
  | c :: cs =>
    if isBlank c then
      if word.isEmpty then wordsFrom [] cs else word.reverse :: wordsFrom [] cs
    else wordsFrom (c :: word) cs

/-- The words of a text: its maximal stretches without white space. -/
def words (cs : List Char) : List (List Char) := wordsFrom [] cs

/-- `trim` on strings. -/
def strip (s : String) : String := String.ofList (trim s.toList)

end FolderTalk.Text
