import FolderTalk.Text.Blank
import FolderTalk.Text.Case

/-!
# Pictographs by name

In printed text the name of a pictograph between two colons stands for the pictograph. A name may
end in `-emoji` or `-text`, which selects the coloured or the plain form. Names that are not known
stand for themselves.
-/

namespace FolderTalk.Pictograph

open Text

/-- The known names with the codes of their pictographs. -/
def codes : List (String × Nat) :=
  [("+1", 0x1f44d), ("-1", 0x1f44e), ("100", 0x1f4af), ("a", 0x1f170), ("ab", 0x1f18e),
   ("airplane", 0x2708), ("alien", 0x1f47d), ("angry", 0x1f620), ("apple", 0x1f34e),
   ("art", 0x1f3a8), ("b", 0x1f171), ("baby", 0x1f476), ("banana", 0x1f34c), ("bear", 0x1f43b),
   ("beer", 0x1f37a), ("bell", 0x1f514), ("blush", 0x1f60a), ("bomb", 0x1f4a3), ("book", 0x1f4d6),
   ("books", 0x1f4da), ("boom", 0x1f4a5), ("broken_heart", 0x1f494), ("bug", 0x1f41b),
   ("bulb", 0x1f4a1), ("cake", 0x1f370), ("calendar", 0x1f4c5), ("camera", 0x1f4f7),
   ("cat", 0x1f431), ("check_mark", 0x2714), ("clap", 0x1f44f), ("clipboard", 0x1f4cb),
   ("cloud", 0x2601), ("coffee", 0x2615), ("computer", 0x1f4bb), ("cool", 0x1f192),
   ("cross_mark", 0x274c), ("cry", 0x1f622), ("dog", 0x1f436), ("email", 0x1f4e7),
   ("eyes", 0x1f440), ("file_folder", 0x1f4c1), ("fire", 0x1f525), ("floppy_disk", 0x1f4be),
   ("free", 0x1f193), ("gear", 0x2699), ("gem", 0x1f48e), ("ghost", 0x1f47b), ("gift", 0x1f381),
   ("grin", 0x1f601), ("grinning", 0x1f600), ("hammer", 0x1f528), ("heart", 0x2764),
   ("heavy_check_mark", 0x2714), ("house", 0x1f3e0), ("id", 0x1f194), ("joy", 0x1f602),
   ("key", 0x1f511), ("laughing", 0x1f606), ("lock", 0x1f512), ("m", 0x24c2),
   ("magnifying_glass_tilted_left", 0x1f50d), ("memo", 0x1f4dd), ("money_bag", 0x1f4b0),
   ("musical_note", 0x1f3b5), ("new", 0x1f195), ("ng", 0x1f196), ("o", 0x2b55), ("ok", 0x1f197),
   ("ok_hand", 0x1f44c), ("open_file_folder", 0x1f4c2), ("package", 0x1f4e6),
   ("party_popper", 0x1f389), ("phone", 0x260e), ("pile_of_poo", 0x1f4a9), ("pizza", 0x1f355),
   ("poop", 0x1f4a9), ("pray", 0x1f64f), ("pushpin", 0x1f4cc), ("rainbow", 0x1f308),
   ("raised_hands", 0x1f64c), ("red_heart", 0x2764), ("robot", 0x1f916), ("rocket", 0x1f680),
   ("rose", 0x1f339), ("scissors", 0x2702), ("skull", 0x1f480), ("smile", 0x1f604),
   ("smiley", 0x1f603), ("snake", 0x1f40d), ("snowman", 0x2603), ("sob", 0x1f62d),
   ("sos", 0x1f198), ("sparkles", 0x2728), ("star", 0x2b50), ("sunglasses", 0x1f60e),
   ("tada", 0x1f389), ("thinking_face", 0x1f914), ("thumbs_down", 0x1f44e),
   ("thumbs_up", 0x1f44d), ("thumbsdown", 0x1f44e), ("thumbsup", 0x1f44d), ("trash", 0x1f5d1),
   ("tree", 0x1f333), ("trophy", 0x1f3c6), ("unicorn", 0x1f984), ("up", 0x1f199), ("v", 0x270c),
   ("vs", 0x1f19a), ("warning", 0x26a0), ("watch", 0x231a), ("wave", 0x1f44b),
   ("white_check_mark", 0x2705), ("wink", 0x1f609), ("wrench", 0x1f527), ("x", 0x274c),
   ("zap", 0x26a1), ("zzz", 0x1f4a4)]

/-- The endings that select a form, with the character that marks it. -/
def forms : List (List Char × Char) := [("-emoji".toList, '\ufe0f'), ("-text".toList, '\ufe0e')]

/-- A name without its ending, and the mark of the form that the ending selects. -/
def splitForm (name : List Char) : List Char × List Char :=
  match forms.find? fun f => f.1.isSuffixOf name with
  | some (ending, mark) => (name.take (name.length - ending.length), [mark])
  | none => (name, [])

/-- The pictograph that a text between two colons names. -/
def named? (text : List Char) : Option (List Char) :=
  let (name, mark) := splitForm text
  (codes.lookup (String.ofList (lower name))).map fun code => Char.ofNat code :: mark

/-- The text up to the next colon and what follows it, if there is no white space before it. -/
def upToColon : List Char → Option (List Char × List Char)
  | [] => none
  | c :: cs =>
    if c == ':' then some ([], cs)
    else if isBlank c then none
    else (upToColon cs).map fun (name, rest) => (c :: name, rest)

theorem upToColon_length {cs name rest : List Char} (h : upToColon cs = some (name, rest)) :
    rest.length < cs.length := by
  induction cs generalizing name rest with
  | nil => simp [upToColon] at h
  | cons c cs ih =>
    rw [upToColon] at h
    split at h
    · grind
    · split at h
      · simp at h
      · simp only [Option.map_eq_some_iff, Prod.mk.injEq, Prod.exists] at h
        obtain ⟨n, r, hr, rfl, rfl⟩ := h
        have := ih hr
        simp only [List.length_cons]
        omega

/-- The text with every name between two colons replaced by its pictograph. -/
def replace : List Char → List Char
  | [] => []
  | c :: cs =>
    if c == ':' then
      match _found : upToColon cs with
      | some (name, rest) => (named? name).getD (':' :: (name ++ [':'])) ++ replace rest
      | none => c :: replace cs
    else c :: replace cs
termination_by cs => cs.length
decreasing_by
  · have := upToColon_length _found
    simp only [List.length_cons]
    omega
  · simp
  · simp

end FolderTalk.Pictograph
