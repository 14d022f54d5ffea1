import FolderTalk.Config.File
import FolderTalk.Diff.Unified
import FolderTalk.Text.Lines
import FolderTalk.Text.Stretch

/-!
# Changes of the configuration file

What is shown of a change: the diff of the file before and after it, without the lines that hold
the time of the last change. A change that leaves no other trace counts as none.
-/

namespace FolderTalk.ConfigFile

/-- Whether a line holds the mark of the time of the last change. -/
def isStamped (line : List Char) : Bool := Text.isStretch stampMark.toList line

/-- The lines of the diff between two texts of the file. -/
def changes (before after : String) : List (List Char) :=
  (Diff.unified "config.yaml (before)" "config.yaml (after)" (Text.lines before.toList)
    (Text.lines after.toList)).filter (!isStamped ·)

/-- Whether a line of a diff names one of the two texts. -/
def isFileName (line : List Char) : Bool :=
  "+++".toList.isPrefixOf line || "---".toList.isPrefixOf line

/-- Whether a line of a diff was removed or added. -/
def isChange (line : List Char) : Bool :=
  !isFileName line && (line.head? == some '+' || line.head? == some '-')

/-- The diff between two texts of the file, if it shows a change. -/
def changes? (before after : String) : Option (List (List Char)) :=
  let lines := changes before after
  if lines.any isChange then some lines else none

end FolderTalk.ConfigFile
