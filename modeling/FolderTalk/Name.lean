import FolderTalk.Text.Blank
import FolderTalk.Text.Case

/-!
# Names and their identifiers

A folder's name is stored in its display form, and a new folder's identifier is built from the
slug of its name.
-/

namespace FolderTalk.Name

open Text

/-- The display form: trimmed, one space between words, the first character in capitals. -/
def displayForm (name : String) : String :=
  String.ofList (capitalize (squeeze ' ' (trim name.toList)))

/-- The slug: trimmed, in small letters, the words joined by hyphens. -/
def slug (name : String) : String :=
  String.ofList (squeeze '-' (lower (trim name.toList)))

end FolderTalk.Name
