import FolderTalk.Text.Quoted

/-!
# Version

The version of the program and the answer to a question for anything else that is not published
about it.
-/

namespace FolderTalk.Version

def text : String := "0.1.0"

def unknownAttribute (name : String) : String :=
  "module 'chatorg' has no attribute " ++ Text.quoted name

end FolderTalk.Version
