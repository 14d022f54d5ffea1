import FolderTalk.Command.Rule
import FolderTalk.Intent
import FolderTalk.Name
import FolderTalk.Store.Lookup

/-!
# From a command to an intent

A command is trimmed and put into small letters; the first rule found in it decides. The rule's
operands are then resolved against the store, and an operand that cannot be resolved, or a name
that is taken, turns the command into an informational reply.
-/

namespace FolderTalk.Command

/-- The reply to a command that no rule is found in. -/
def helpText : String :=
  "I couldn't understand that command. Try:\n"
    ++ "• 'move vacation.png to Images'\n"
    ++ "• 'move all png files to Images'\n"
    ++ "• 'create folder called Projects'\n"
    ++ "• 'rename Images to Pictures'\n"
    ++ "• 'delete Documents folder'"

/-- A reply that changes nothing. -/
def reply (summary : String) : Intent := ⟨.info, summary⟩

def notFound (kind name : String) : Intent :=
  reply ("I couldn't find a " ++ kind ++ " named \"" ++ name ++ "\".")

def nameTaken (name : String) : Intent :=
  reply ("A folder named \"" ++ name ++ "\" already exists.")

def nameTakenInside (name parentName : String) : Intent :=
  reply ("A folder named \"" ++ name ++ "\" already exists inside " ++ parentName ++ ".")

/-- The phrase without its last word, if that word is "folder". -/
def withoutFolderWord? (phrase : String) : Option String :=
  let backwards := phrase.toList.reverse
  if " folder".toList.reverse.isPrefixOf backwards then
    some (String.ofList (backwards.drop " folder".length).reverse)
  else none

/-- The folder a phrase stands for, also without a closing word "folder". -/
def findPhrase (store : Store) (phrase : String) : Option Folder :=
  store.findFolder phrase <|> (withoutFolderWord? phrase).bind store.findFolder

/-- Where a move goes, and whether that folder has to be created first. -/
def destination (store : Store) (phrase : String) : Destination × Bool :=
  match store.findFolder phrase with
  | some f => (⟨f.id, f.name⟩, false)
  | none => (⟨Name.slug phrase, Name.displayForm phrase⟩, true)

def rename (store : Store) (oldPhrase newPhrase : String) : Intent :=
  let oldName := Text.strip oldPhrase
  let newName := Name.displayForm newPhrase
  match store.findFolder oldName with
  | none => notFound "folder" oldName
  | some folder =>
    let taken := match store.findFolder newName with
      | some other => other.id != folder.id
      | none => false
    if taken then nameTaken newName
    else ⟨.renameFolder folder.id folder.name newName,
      "Renamed \"" ++ folder.name ++ "\" to \"" ++ newName ++ "\"."⟩

def delete (store : Store) (phrase : String) : Intent :=
  let name := Text.strip phrase
  match findPhrase store name with
  | none => notFound "folder" name
  | some folder =>
    ⟨.deleteFolder folder.id folder.name, "Deleted \"" ++ folder.name ++ "\" folder."⟩

/-- Whether some folder inside `parentId` has the name up to case. -/
def hasSibling (store : Store) (name parentId : String) : Bool :=
  store.folders.any fun f => Text.toLower f.name == Text.toLower name && f.parent == some parentId

def createNested (store : Store) (newPhrase parentPhrase : String) : Intent :=
  let newName := Name.displayForm newPhrase
  let parentName := Text.strip parentPhrase
  match store.findFolder parentName with
  | none => notFound "folder" parentName
  | some parent =>
    if hasSibling store newName parent.id then nameTakenInside newName parent.name
    else ⟨.createNested newName parent.id parent.name,
      "Created \"" ++ newName ++ "\" folder inside " ++ parent.name ++ "."⟩

def createSimple (store : Store) (phrase : String) : Intent :=
  let newName := Name.displayForm phrase
  if (store.findFolder newName).isSome then nameTaken newName
  else ⟨.createSimple newName, "Created \"" ++ newName ++ "\" folder."⟩

def moveByExtension (store : Store) (word targetPhrase : String) : Intent :=
  let extension := Text.toLower word
  let files := store.filesWithExtension extension
  if files.isEmpty then reply ("No " ++ extension ++ " files found.")
  else
    let (target, create) := destination store targetPhrase
    let count := toString files.length
    ⟨.moveByExtension extension target create (files.map (·.name)),
      if create then
        "Created \"" ++ target.name ++ "\" folder and moved " ++ count ++ " " ++ extension
          ++ " file(s) into it."
      else "Moved " ++ count ++ " " ++ extension ++ " file(s) to " ++ target.name ++ "."⟩

def moveFile (store : Store) (filePhrase targetPhrase : String) : Intent :=
  let name := Text.strip filePhrase
  match store.findFile name with
  | none => notFound "file" name
  | some file =>
    let (target, create) := destination store targetPhrase
    ⟨.moveFile file.name target create,
      if create then
        "Created \"" ++ target.name ++ "\" folder and moved \"" ++ file.name ++ "\" into it."
      else "Moved \"" ++ file.name ++ "\" to " ++ target.name ++ "."⟩

def list (store : Store) : Intent :=
  ⟨.list, "You have " ++ toString store.files.length ++ " file(s) and "
    ++ toString store.folders.length ++ " folder(s)."⟩

def openFolder (store : Store) (phrase : String) : Intent :=
  let name := Text.strip phrase
  match findPhrase store name with
  | none => notFound "folder" name
  | some folder => ⟨.openFolder folder.id, "Opening " ++ folder.name ++ " folder."⟩

/-- The intent of a rule found in a command, its operands resolved against the store. -/
def intentOf (r : Rule) (m : Found) (store : Store) : Intent :=
  match r with
  | .undo => ⟨.undo, ""⟩
  | .reset => ⟨.reset, ""⟩
  | .renameFolder => rename store (m.group 1) (m.group 2)
  | .deleteFolder => delete store (m.group 1)
  | .createNested => createNested store (m.group 1) (m.group 2)
  | .createSimple => createSimple store (m.group 1)
  | .moveByExtension => moveByExtension store (m.group 1) (m.group 2)
  | .moveFile => moveFile store (m.group 1) (m.group 2)
  | .list => list store
  | .openFolder => openFolder store (m.group 1)

/-- The form in which a command is searched: small letters, trimmed. -/
def normalise (text : String) : List Char := Text.trim (Text.lower text.toList)

/-- The first rule found in a command, with what it found. -/
def firstRule (command : List Char) : Option (Rule × Found) :=
  Rule.all.findSome? fun r => (r.find command).map fun m => (r, m)

/-- The intent of a command text. -/
def recognise (text : String) (store : Store) : Intent :=
  match firstRule (normalise text) with
  | some (r, m) => intentOf r m store
  | none => reply helpText

end FolderTalk.Command
