import FolderTalk.Proofs.Config.Rejection
import FolderTalk.Proofs.Yaml.Comments
import FolderTalk.Proofs.Yaml.Written

/-!
# The header of a saved configuration

Whatever is saved to the configuration file stands below three lines of comments, the last one with
the time of saving. They make no difference to what the file is read as, if that time is on one line.

* `OneLine`, `headerLines` : texts on one line, and the lines above a saved mapping;
* `read_saved` : what is read of a saved file is its text;
* `entries_saved` : its mapping is what would be read without the header.
-/

namespace FolderTalk

open Config

namespace ConfigFile

/-- Whether characters stand on one line and may be in a YAML text. -/
def isOneLine (cs : List Char) : Bool := cs.all fun c => Yaml.isPermitted c && !Yaml.isBreak c

/-- A text on one line, of characters that a YAML text may hold. -/
def OneLine (s : String) : Prop := isOneLine s.toList

instance : DecidablePred OneLine := fun s => inferInstanceAs (Decidable (isOneLine s.toList = true))

/-- The lines above a saved mapping. -/
def headerLines (stamp : String) : List (List Char) :=
  ["# chatorg configuration file".toList,
    "# Manage with \x60chatorg config set KEY --value VALUE\x60 or \x60chatorg config edit\x60.".toList,
    (stampMark ++ " " ++ stamp).toList]

variable {f : ConfigFile} {es : Entries} {stamp body : String}

theorem commentLine_of_isOneLine {line : List Char} (hmark : line.head? = some '#')
    (h : isOneLine line) : Yaml.CommentLine line := by
  have hall : ∀ c ∈ line, Yaml.isPermitted c ∧ Yaml.isBreak c = false := by
    simpa [isOneLine] using h
  exact ⟨hmark, fun c hc => (hall c hc).1, fun c hc => (hall c hc).2⟩

theorem headerLines_comment (h : OneLine stamp) :
    ∀ line ∈ headerLines stamp, Yaml.CommentLine line := by
  have hstamped : isOneLine (stampMark ++ " " ++ stamp).toList := by
    rw [String.toList_append, isOneLine, List.all_append]
    exact Bool.and_eq_true_iff.mpr ⟨by decide, h⟩
  refine List.forall_mem_cons.mpr ⟨commentLine_of_isOneLine (by decide) (by decide),
    List.forall_mem_cons.mpr ⟨commentLine_of_isOneLine (by decide) (by decide),
      List.forall_mem_singleton.mpr (commentLine_of_isOneLine ?_ hstamped)⟩⟩
  rw [String.toList_append, String.toList_append]
  rfl

theorem saved_text (stamp body : String) : header ++ stampMark ++ " " ++ stamp ++ "\n" ++ body =
    String.ofList (Yaml.unlines (headerLines stamp) ++ body.toList) := by
  have hheader : header.toList = Yaml.unlines ((headerLines "").take 2) := by decide +kernel
  apply String.toList_inj.mp
  simp only [String.toList_append, String.toList_ofList, hheader]
  simp [Yaml.unlines, headerLines]

theorem unifyBreaks_eq_self {cs : List Char} (h : ∀ c ∈ cs, c ≠ '\r') : unifyBreaks cs = cs := by
  induction cs with
  | nil => rfl
  | cons c cs ih =>
    obtain ⟨hc, hcs⟩ := List.forall_mem_cons.mp h
    rw [unifyBreaks, ih hcs, if_neg (by simpa using hc)]
    rintro cs' rfl -
    exact hc rfl

theorem ne_return_of_isSimple {c : Char} (h : Yaml.isSimple [c]) : c ≠ '\r' := by
  rintro rfl
  exact absurd h (by decide)

/-- A text that is saved has no line breaks but line feeds. -/
theorem unifyBreaks_saved (hstamp : OneLine stamp) (hbody : Yaml.write es = .ok body) :
    unifyBreaks (Yaml.unlines (headerLines stamp) ++ body.toList) =
      Yaml.unlines (headerLines stamp) ++ body.toList := by
  apply unifyBreaks_eq_self
  refine List.forall_mem_append.mpr ⟨fun c hc => ?_, fun c hc =>
    ne_return_of_isSimple (Yaml.write_simple hbody c hc)⟩
  obtain ⟨line, hline, hc⟩ := List.mem_flatMap.mp hc
  rcases List.mem_append.mp hc with hc | hc
  · rintro rfl
    exact absurd ((headerLines_comment hstamp line hline).unbroken _ hc) (by decide)
  · rw [List.mem_singleton.mp hc]
    decide

theorem head?_ne_mark (hbody : Yaml.write es = .ok body) : body.toList.head? ≠ some '\ufeff' := by
  intro hmark
  have hsimple := Yaml.write_simple hbody _ (List.mem_of_head? hmark)
  exact absurd hsimple (by decide)

/-- What is read of a saved file is its text. -/
theorem read_saved (hstamp : OneLine stamp) (hbody : Yaml.write es = .ok body)
    (h : f.text = some (header ++ stampMark ++ " " ++ stamp ++ "\n" ++ body)) :
    f.read = String.ofList (Yaml.unlines (headerLines stamp) ++ body.toList) := by
  rw [read, h, Option.getD_some, saved_text, String.toList_ofList, unifyBreaks_saved hstamp hbody]

/-- **The header of a saved file** makes no difference: its mapping is the one below the header. -/
theorem entries_saved (hstamp : OneLine stamp) (hbody : Yaml.write es = .ok body)
    (h : f.text = some (header ++ stampMark ++ " " ++ stamp ++ "\n" ++ body)) :
    f.entries = parse body := by
  have hread := Yaml.read_comments (headerLines_comment hstamp) (head?_ne_mark hbody)
  rw [String.ofList_toList] at hread
  rw [entries_eq_parse, read_saved hstamp hbody h]
  unfold parse
  rw [hread]

theorem text_save (f : ConfigFile) (hbody : Yaml.write es = .ok body) : (f.save es).2 = none ∧
    (f.save es).1.text =
      some (header ++ stampMark ++ " " ++ f.stamp (f.saves + 1) ++ "\n" ++ body) := by
  unfold save
  simp only [hbody, and_self]

theorem fields_save (f : ConfigFile) (hbody : Yaml.write es = .ok body) :
    (f.save es).1.stamp = f.stamp ∧ (f.save es).1.saves = f.saves + 1 := by
  unfold save
  simp only [hbody, and_self]

end ConfigFile

end FolderTalk
