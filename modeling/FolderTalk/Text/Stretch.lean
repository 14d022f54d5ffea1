/-!
# Stretches

Whether one text occurs in another, and what lies between its occurrences.
-/

namespace FolderTalk.Text

/-- Whether `part` occurs in the text as a stretch. -/
def isStretch (part : List Char) : List Char → Bool
  | [] => part.isEmpty
  | c :: cs => part.isPrefixOf (c :: cs) || isStretch part cs

/-- The parts of a text between the occurrences of a mark, from the left: `skip` characters belong to
the mark that has just begun, and `part` is the part being read, last character first. -/
def divideFrom (mark : List Char) : (skip : Nat) → (part : List Char) → List Char →
    List (List Char)
  | _, part, [] => [part.reverse]
  | skip + 1, part, _ :: cs => divideFrom mark skip part cs
  | 0, part, c :: cs =>
    if mark.isPrefixOf (c :: cs) then part.reverse :: divideFrom mark (mark.length - 1) [] cs
    else divideFrom mark 0 (c :: part) cs

/-- The parts of a text between the occurrences of a mark. -/
def divide (mark s : String) : List String :=
  (divideFrom mark.toList 0 [] s.toList).map String.ofList

end FolderTalk.Text
