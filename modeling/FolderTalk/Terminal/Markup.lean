import FolderTalk.Terminal.Pictograph

/-!
# Markup

Text for the terminal may hold tags in square brackets that switch a style on, `[bold]`, and off
again, `[/bold]` or `[/]`. A backslash before a tag takes its meaning away. Here tags are found and
dropped, and the names of pictographs are replaced; the styles themselves are not shown.

* `Markup.escape` makes a text that stands for itself.
* `Markup.render` is the text that remains of a marked-up one.
-/

namespace FolderTalk

/-- What can be wrong with the tags of a text. -/
inductive MarkupError where
  /-- A closing tag without an open one of its name. -/
  | unmatched (tag : String) (position : Nat)
  /-- A nameless closing tag while nothing is open. -/
  | nothingOpen (position : Nat)
  deriving DecidableEq, Repr

def MarkupError.message : MarkupError → String
  | unmatched tag position =>
    "closing tag '[" ++ tag ++ "]' at position " ++ toString position
      ++ " doesn't match any open tag"
  | nothingOpen position =>
    "closing tag '[/]' at position " ++ toString position ++ " has nothing to close"

namespace Markup

/-- The characters that can begin a tag. -/
def beginsTag (c : Char) : Bool := ('a' ≤ c && c ≤ 'z') || c == '#' || c == '/' || c == '@'

/-- The rest of a tag up to its closing bracket, and what follows. -/
def tagRest : List Char → Option (List Char × List Char)
  | [] => none
  | c :: cs =>
    if c == ']' then some ([], cs)
    else if c == '[' then none
    else (tagRest cs).map fun (tag, rest) => (c :: tag, rest)

/-- The tag at the beginning of a text, without its brackets, and what follows. -/
def tagAt : List Char → Option (List Char × List Char)
  | '[' :: c :: cs =>
    if beginsTag c then (tagRest cs).map fun (tag, rest) => (c :: tag, rest) else none
  | _ => none

theorem tagRest_length {cs tag rest : List Char} (h : tagRest cs = some (tag, rest)) :
    tag.length + rest.length + 1 = cs.length := by
  induction cs generalizing tag rest with
  | nil => simp [tagRest] at h
  | cons c cs ih =>
    rw [tagRest] at h
    split at h
    · grind
    · split at h
      · simp at h
      · simp only [Option.map_eq_some_iff, Prod.mk.injEq, Prod.exists] at h
        obtain ⟨t, r, hr, rfl, rfl⟩ := h
        have := ih hr
        simp only [List.length_cons]
        omega

theorem tagAt_length {cs tag rest : List Char} (h : tagAt cs = some (tag, rest)) :
    rest.length < cs.length := by
  unfold tagAt at h
  split at h
  · split at h
    · simp only [Option.map_eq_some_iff, Prod.mk.injEq, Prod.exists] at h
      obtain ⟨t, r, hr, rfl, rfl⟩ := h
      have := tagRest_length hr
      simp only [List.length_cons]
      omega
    · simp at h
  · simp at h

/-- The parts of a marked-up text. -/
inductive Part where
  /-- Characters that belong to no tag. -/
  | plain (text : List Char)
  /-- A tag after a row of backslashes, at its position in the text. -/
  | tag (backslashes : Nat) (text : List Char) (position : Nat)

/-- Divides a text that begins at a position into its parts; `run` is what has been read since the
last tag, last character first. -/
def divideFrom (run : List Char) (position : Nat) (cs : List Char) : List Part :=
  match _found : tagAt cs with
  | some (tag, rest) =>
    let backslashes := (run.takeWhile (· == '\\')).length
    .plain (run.drop backslashes).reverse :: .tag backslashes tag position ::
      divideFrom [] (position + (cs.length - rest.length)) rest
  | none =>
    match cs with
    | [] => [.plain run.reverse]
    | c :: cs => divideFrom (c :: run) (position + 1) cs
termination_by cs.length
decreasing_by
  · exact tagAt_length _found
  · simp

/-- The parts of a text. -/
def divide (cs : List Char) : List Part := divideFrom [] 0 cs

/-- A tag with its brackets. -/
def bracketed (tag : List Char) : List Char := '[' :: (tag ++ [']'])

/-- A part as characters; a tag comes after one more than twice the backslashes that are there. -/
def escapePart : Part → List Char
  | .plain text => text
  | .tag n tag _ => List.replicate (2 * n + 1) '\\' ++ bracketed tag

/-- Whether a text ends in one backslash that stands alone. -/
def endsInBackslash (cs : List Char) : Bool :=
  match cs.reverse with
  | '\\' :: '\\' :: _ => false
  | '\\' :: _ => true
  | _ => false

/-- A marked-up text that stands for the given one. -/
def escape (cs : List Char) : List Char :=
  let escaped := (divide cs).flatMap escapePart
  if endsInBackslash escaped then escaped ++ ['\\'] else escaped

/-- The short names of styles. -/
def abbreviations : List (String × String) :=
  [("b", "bold"), ("c", "conceal"), ("d", "dim"), ("i", "italic"), ("o", "overline"),
   ("r", "reverse"), ("s", "strike"), ("u", "underline"), ("uu", "underline2")]

/-- The name under which a style is opened and closed. -/
def styleName (cs : List Char) : String :=
  let name := String.ofList (Text.lower (Text.trim cs))
  (abbreviations.lookup name).getD name

/-- The name in a tag, without the parameters after an equals sign. -/
def tagName (tag : List Char) : List Char := tag.takeWhile (· != '=')

/-- The open styles, innermost first, after a closing tag. -/
def close (opened : List String) (tag : List Char) (position : Nat) :
    Except MarkupError (List String) :=
  let name := Text.trim (tagName (tag.drop 1))
  if name.isEmpty then
    match opened with
    | [] => .error (.nothingOpen position)
    | _ :: rest => .ok rest
  else
    let style := styleName name
    if opened.contains style then .ok (opened.erase style)
    else .error (.unmatched (String.ofList tag) position)

/-- Plain text without the backslashes right before brackets. -/
def dropBackslashes : List Char → List Char
  | '\\' :: '[' :: cs => '[' :: dropBackslashes cs
  | c :: cs => c :: dropBackslashes cs
  | [] => []

/-- The characters of a row of parts, with the styles that are open before it. -/
def renderParts (opened : List String) : List Part → Except MarkupError (List Char)
  | [] => .ok []
  | .plain text :: ps =>
    (renderParts opened ps).map (Pictograph.replace (dropBackslashes text) ++ ·)
  | .tag n tag position :: ps =>
    let kept := List.replicate (n / 2) '\\'
    if n % 2 == 1 then
      (renderParts opened ps).map (kept ++ Pictograph.replace (bracketed tag) ++ ·)
    else if tag.head? == some '/' then
      match close opened tag position with
      | .error e => .error e
      | .ok opened => (renderParts opened ps).map (kept ++ ·)
    else (renderParts (styleName (tagName tag) :: opened) ps).map (kept ++ ·)

/-- Characters that are never shown: bell, backspace, vertical tab, form feed, carriage return. -/
def isDropped (c : Char) : Bool := [7, 8, 11, 12, 13].contains c.toNat

/-- The text that remains of a marked-up one. -/
def render (cs : List Char) : Except MarkupError (List Char) :=
  (renderParts [] (divide cs)).map (·.filter (!isDropped ·))

/-- A tagged text. -/
def styled (style : String) (cs : List Char) : List Char :=
  bracketed style.toList ++ cs ++ bracketed ('/' :: style.toList)

end Markup

end FolderTalk
