/-!
# Folder colours

The palette that new folders take their colours from. An empty palette stands for the built-in one,
so there is always a colour to choose.
-/

namespace FolderTalk.Palette

def builtIn : List String :=
  ["bg-blue-500", "bg-green-500", "bg-purple-500", "bg-orange-500", "bg-pink-500", "bg-red-500",
   "bg-indigo-500", "bg-teal-500"]

/-- The palette in use: the given one unless it is empty. -/
def orBuiltIn (colors : List String) : List String := if colors.isEmpty then builtIn else colors

end FolderTalk.Palette
