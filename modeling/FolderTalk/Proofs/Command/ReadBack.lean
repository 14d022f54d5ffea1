import FolderTalk.Proofs.Command.Canonical

/-!
# Canonical commands are read back

* `Canonical.find_eq_none` : no rule that is tried before the command's own is found anywhere in its
  text, for want of that rule's opening word or of its separating word;
* `Canonical.find_own` : the command's own rule takes the whole text, and its groups are the operands;
* `Canonical.firstRule_text` : so the command is read back as what it was written for.
-/

namespace FolderTalk.Command

open Text Pattern

/-! ## The words that a rule needs -/

namespace Rule

/-- The words that a command of the rule begins with, for the rules that are searched for. -/
def openings : Rule → List (List Char)
  | undo | reset => []
  | renameFolder => ["rename".toList]
  | deleteFolder => ["delete".toList]
  | createNested | createSimple => ["create".toList]
  | moveByExtension | moveFile => ["move".toList]
  | list => ["list".toList, "show".toList, "display".toList]
  | openFolder => ["open".toList]

theorem reads_opening {r : Rule} (hr : r.isWholeText = false) {t : List Char} (h : r.pattern.Reads t) :
    ∃ k ∈ r.openings, ∃ b later, isBlank b ∧ t = k ++ b :: later := by
  have hblank : ∀ {k bs later : List Char}, blanks.Reads bs →
      ∃ b later', isBlank b ∧ k ++ (bs ++ later) = k ++ b :: later' := by
    intro k bs later hbs
    obtain ⟨b, bs, hb, rfl⟩ := reads_blanks hbs
    exact ⟨b, bs ++ later, hb, rfl⟩
  cases r with
  | undo | reset => cases hr
  | renameFolder | deleteFolder | moveByExtension | moveFile | openFolder =>
    obtain ⟨_, _, rfl, rfl, bs, later, rfl, hbs, _⟩ := h
    exact ⟨_, List.mem_singleton.mpr rfl, hblank hbs⟩
  | createNested | createSimple =>
    obtain ⟨_, _, rfl, ⟨_, _, rfl, rfl, bs, later, rfl, hbs, _⟩, _⟩ := h
    refine ⟨_, List.mem_singleton.mpr rfl, ?_⟩
    rw [List.append_assoc, List.append_assoc]
    exact hblank hbs
  | list =>
    obtain ⟨k, _, rfl, hk, bs, later, rfl, hbs, _⟩ := h
    exact ⟨k, reads_firstOf (by simp [openings]) hk, hblank hbs⟩

/-- A rule is not found in a text of words if none of them ends in an opening word. -/
theorem find_eq_none_of_openings {r : Rule} (hr : r.isWholeText = false) {ws : List (List Char)}
    (hws : Worded ws) (h : ∀ k ∈ r.openings, Solid k ∧ ∀ w ∈ ws, ¬ k <:+ w) :
    r.find (spaced ws) = none := by
  rw [find, hr]
  refine search_eq_none ?_
  intro before t later hsplit hreads
  obtain ⟨k, hk, b, rest, hb, rfl⟩ := reads_opening hr hreads
  obtain ⟨hsolid, hnot⟩ := h k hk
  rw [List.append_assoc, List.append_assoc, List.cons_append, ← List.append_assoc] at hsplit
  obtain ⟨w, hw, hsuffix⟩ := suffix_of_blank_after hws.solid hsolid hb hsplit
  exact hnot w hw hsuffix

/-- A rule is not found in a text of words if none of them after the first is its separating word. -/
theorem find_eq_none_of_separators {r : Rule} (hr : r.isWholeText = false) {seps : List (List Char)}
    (hne : seps ≠ []) (hsolid : ∀ l ∈ seps, Solid l)
    (hreads : ∀ t, r.pattern.Reads t → ∃ a s b, t = a ++ s ++ b ∧ (separator seps).Reads s)
    {ws : List (List Char)} (hws : Worded ws) (h : ∀ l ∈ seps, l ∉ ws.tail) :
    r.find (spaced ws) = none := by
  rw [find, hr]
  refine search_eq_none ?_
  intro before t later hsplit ht
  obtain ⟨a, s, b, rfl, hs⟩ := hreads t ht
  have hwhole : spaced ws = (before ++ a) ++ s ++ (b ++ later) := by
    rw [hsplit]
    simp
  obtain ⟨l, hl, hmem⟩ := mem_tail_of_separator hne hsolid hws hwhole hs
  exact h l hl hmem

theorem createNested_reads_place {t : List Char} (h : createNested.pattern.Reads t) :
    ∃ a s b, t = a ++ s ++ b ∧ (separator places).Reads s := by
  obtain ⟨opening, _, rfl, _, name, _, rfl, _, bs, _, rfl, hbs, l, _, rfl, hl, cs, parent, rfl,
    hcs, _⟩ := h
  refine ⟨opening ++ name, bs ++ (l ++ cs), parent, by simp, ?_⟩
  exact ⟨bs, l ++ cs, rfl, hbs, l, cs, rfl, hl, hcs⟩

theorem moveByExtension_reads_all {t : List Char} (h : moveByExtension.pattern.Reads t) :
    ∃ a s b, t = a ++ s ++ b ∧ (separator ["all".toList]).Reads s := by
  obtain ⟨opening, _, rfl, _, bs, _, rfl, hbs, l, _, rfl, hl, cs, rest, rfl, hcs, _⟩ := h
  refine ⟨opening, bs ++ (l ++ cs), rest, by simp, ?_⟩
  exact ⟨bs, l ++ cs, rfl, hbs, l, cs, rfl, hl, hcs⟩

end Rule

namespace Canonical

variable {c : Canonical}

/-! ## No earlier rule is found -/

theorem find_wholeText_eq_none {r : Rule} (hr : r.isWholeText) (c : Canonical) :
    r.find c.text = none := by
  have hbegins : ∃ later, c.text = c.opening ++ later := by
    rw [text]
    cases hrest : c.rest.map Piece.text with
    | nil => exact ⟨[], (List.append_nil _).symm⟩
    | cons w ws => exact ⟨_, spaced_cons _ (by simp)⟩
  obtain ⟨later, hlater⟩ := hbegins
  rw [hlater]
  cases r with
  | undo => cases c <;> rfl
  | reset => cases c <;> rfl
  | _ => cases hr

theorem find_eq_none_of_openings (h : c.Plain) {r : Rule} (hr : r.isWholeText = false)
    (hother : ∀ k ∈ r.openings, k ∈ commandWords ∧ ¬ k <:+ c.opening) : r.find c.text = none := by
  rw [text_eq h]
  refine Rule.find_eq_none_of_openings hr (worded_chunks h) ?_
  intro k hk
  have hstructure : ∀ k ∈ commandWords, Solid k ∧ ∀ w ∈ structureWords, ¬ k <:+ w := by decide
  obtain ⟨hcommand, hnot⟩ := hother k hk
  obtain ⟨hsolid, hwords⟩ := hstructure k hcommand
  refine ⟨hsolid, List.forall_mem_cons.mpr ⟨hnot, fun w hw => ?_⟩⟩
  rcases rest_mem h w hw with hw | hw
  · exact hwords w hw
  · exact hw.ending k hcommand

/-- A simple creation names no place. -/
theorem find_createNested_eq_none {article fresh : Bool} {naming : Option (OneOf namings)}
    {name : Operand} (h : (createSimple article fresh naming name).Plain) :
    Rule.find .createNested (createSimple article fresh naming name).text = none := by
  rw [text_eq h]
  refine Rule.find_eq_none_of_separators rfl (by decide) (by decide)
    (fun _ => Rule.createNested_reads_place) (worded_chunks h) ?_
  intro l hl hmem
  have hstructure : ∀ l ∈ places, l ∈ structureWords ∧
      l ∉ ["a".toList, "new".toList, "folder".toList, "called".toList, "named".toList] := by decide
  have hwords : l ∈ creation article fresh naming ++ name.chunks := by
    simpa [chunks, rest, words_chunks, Piece.chunks] using hmem
  rcases List.mem_append.mp hwords with hin | hin
  · exact (hstructure l hl).2 (creation_mem hin)
  · exact (h.chunk_quiet hin).free (hstructure l hl).1

/-- The text of moving one file does not hold the word that moving by extension needs. -/
theorem find_moveByExtension_eq_none {file target : Operand} {toward : OneOf towards}
    (h : (moveFile file toward target).Plain) :
    Rule.find .moveByExtension (moveFile file toward target).text = none := by
  rw [text_eq h]
  refine Rule.find_eq_none_of_separators rfl (by decide) (by decide)
    (fun _ => Rule.moveByExtension_reads_all) (worded_chunks h) ?_
  intro l hl hmem
  have hall : "all".toList ∈ structureWords ∧ "all".toList ∉ towards := by decide
  have hwords : l ∈ file.chunks ++ toward.word :: target.chunks := by
    simpa [chunks, rest, Piece.chunks] using hmem
  rw [List.mem_singleton.mp hl] at hwords
  rcases List.mem_append.mp hwords with hin | hin
  · exact (h.1.chunk_quiet hin).free hall.1
  · rcases List.mem_cons.mp hin with heq | hin
    · exact hall.2 (heq ▸ toward.mem)
    · exact (h.2.chunk_quiet hin).free hall.1

/-- What keeps an earlier rule from being found before the command's own. -/
theorem apart_of_earlier : ∀ own ∈ Rule.all, ∀ r ∈ Rule.all.takeWhile (· != own),
    r.isWholeText ∨
    (∀ k ∈ r.openings, k ∈ commandWords ∧ ∀ k' ∈ own.openings, ¬ k <:+ k') ∨
    r = .createNested ∧ own = .createSimple ∨ r = .moveByExtension ∧ own = .moveFile := by
  decide

theorem opening_mem_openings (c : Canonical) : c.opening ∈ c.rule.openings := by
  cases c <;> exact List.mem_singleton.mpr rfl

/-- **No rule before the command's own is found anywhere in its text.** -/
theorem find_eq_none (h : c.Plain) {r : Rule} (hr : r ∈ Rule.all.takeWhile (· != c.rule)) :
    r.find c.text = none := by
  cases hwhole : r.isWholeText with
  | true => exact find_wholeText_eq_none hwhole c
  | false =>
    rcases apart_of_earlier c.rule (Rule.mem_all _) r hr with h' | hopen | ⟨rfl, hc⟩ | ⟨rfl, hc⟩
    · rw [hwhole] at h'; cases h'
    · exact find_eq_none_of_openings h hwhole fun k hk =>
        ⟨(hopen k hk).1, (hopen k hk).2 _ (opening_mem_openings c)⟩
    · cases c with
      | createSimple => exact find_createNested_eq_none h
      | _ => cases hc
    · cases c with
      | moveFile => exact find_moveByExtension_eq_none h
      | _ => cases hc

/-! ## The command's own rule takes the whole text -/

theorem separators_to : Separators ["to".toList] := ⟨by decide, by decide⟩

theorem separators_towards : Separators towards := ⟨by decide, by decide⟩

theorem separators_places : Separators places := ⟨by decide, by decide⟩

/-- A rule that takes the text to its end, with these groups, matches the whole of it. -/
theorem matchHere_eq {p : Pattern} {t : List Char} {groups : List (List Char)}
    (h : ∀ (k : Cursor → Option Found) (r : Found), k ⟨[], groups.reverse⟩ = some r →
      p.advance k ⟨t, []⟩ = some r) : p.matchHere t = some ⟨t, groups⟩ := by
  refine h _ _ ?_
  simp [Cursor.textUntil]

section Steps
variable {α : Type} {k : Cursor → Option α} {g : List (List Char)} {r : α} {ws : List (List Char)}

/-- The opening word, and the word "folder" if it stands there. -/
theorem advance_opening (s : String) (folder : Bool) (hne : ws ≠ [])
    (hws : Worded ws) (hother : ws.head? ≠ some "folder".toList) (h : k ⟨spaced ws, g⟩ = some r) :
    (word s).advance (Rule.blanks.advance ((Rule.optionalWord "folder").advance k))
      ⟨spaced (s.toList :: (given folder "folder" ++ ws)), g⟩ = some r := by
  have hgiven : given folder "folder" ⊆ structureWords := by cases folder <;> decide
  refine advance_keyword s (by simp [hne]) (worded_append hgiven hws) ?_
  exact advance_optionalWord folder (by decide) hne hws hother h

/-- The word that announces a name is taken exactly if it stands there. -/
theorem advance_naming (naming : Option (OneOf namings)) (hne : ws ≠ []) (hws : Worded ws)
    (hother : ∀ l ∈ namings, ws.head? ≠ some l) (h : k ⟨spaced ws, g⟩ = some r) :
    (optional (either (inOrder [word "called", Rule.blanks])
      (inOrder [word "named", Rule.blanks]))).advance k ⟨spaced (chosen naming ++ ws), g⟩
        = some r := by
  match naming with
  | none =>
    refine (advance_optional_absent ?_).trans h
    rintro t later ht (hcalled | hnamed)
    · exact hother "called".toList (by decide) (head_eq_of_reads hws (by decide) ht hcalled)
    · exact hother "named".toList (by decide) (head_eq_of_reads hws (by decide) ht hnamed)
  | some ⟨w, hw⟩ =>
    refine advance_optional_present ?_
    rcases List.mem_cons.mp hw with rfl | hw
    · exact advance_either_left (advance_keyword "called" hne hws h)
    · obtain rfl := List.mem_singleton.mp hw
      refine (advance_either_right ?_).trans (advance_keyword "named" hne hws h)
      intro t later ht hreads
      have hnamed : Worded ("named".toList :: ws) := List.forall_mem_cons.mpr ⟨by decide, hws⟩
      have hhead := head_eq_of_reads hnamed (by decide) ht hreads
      exact absurd (Option.some.inj hhead) (by decide)

/-- The words between "create" and a new folder's name. -/
theorem advance_createOpening (article fresh : Bool) (naming : Option (OneOf namings)) (hne : ws ≠ [])
    (hws : Worded ws) (hother : ∀ l ∈ structureWords, ws.head? ≠ some l)
    (h : k ⟨spaced ws, g⟩ = some r) :
    Rule.createOpening.advance k ⟨spaced ("create".toList :: (creation article fresh naming ++ ws)), g⟩
      = some r := by
  have hnamings : namings ⊆ structureWords := by decide
  have hgiven : ∀ b, given b "new" ⊆ structureWords := by
    intro b w hw
    rw [given_mem hw]
    decide
  have hnaming : Worded (chosen naming ++ ws) :=
    worded_append (fun w hw => hnamings (chosen_mem hw)) hws
  have hfolder : Worded ("folder".toList :: (chosen naming ++ ws)) :=
    @worded_append ["folder".toList] _ (by decide) hnaming
  have hfresh := worded_append (hgiven fresh) hfolder
  have hshape : creation article fresh naming ++ ws =
      given article "a" ++ (given fresh "new" ++ "folder".toList :: (chosen naming ++ ws)) := by
    simp [creation]
  rw [hshape, Rule.createOpening]
  simp only [inOrder, advance_andThen]
  refine advance_keyword "create" (by simp) ?_ ?_
  · exact worded_append (by cases article <;> decide) hfresh
  refine advance_optionalWord article (by decide) (by simp) hfresh ?_ ?_
  · cases fresh with
    | false => exact fun h => absurd (Option.some.inj h) (by decide)
    | true => exact fun h => absurd (Option.some.inj h) (by decide)
  refine advance_optionalWord fresh (by decide) (by simp) hfolder ?_ ?_
  · exact fun h => absurd (Option.some.inj h) (by decide)
  refine advance_keyword "folder" (by simp [hne]) hnaming ?_
  exact advance_naming naming hne hws (fun l hl => hother l (hnamings hl)) h

/-- The word after an extension is taken exactly if it stands there. -/
theorem advance_filing (filing : Option (OneOf filings)) (hne : ws ≠ []) (hws : Worded ws)
    (hother : ∀ l ∈ filings, ws.head? ≠ some l) (h : k ⟨spaced ws, g⟩ = some r) :
    (optional (inOrder [word "file", optional (word "s"), Rule.blanks])).advance k
      ⟨spaced (chosen filing ++ ws), g⟩ = some r := by
  match filing with
  | none =>
    refine (advance_optional_absent ?_).trans h
    rintro t later ht ⟨_, _, rfl, rfl, ending, bs, rfl, hending, hbs⟩
    obtain ⟨b, bs, hb, rfl⟩ := reads_blanks hbs
    have hword : ("file".toList ++ ending) ∈ filings := by
      rcases hending with rfl | rfl
      · exact List.mem_cons_of_mem _ (List.mem_singleton.mpr rfl)
      · exact List.mem_cons.mpr (.inl rfl)
    have hsolid : ∀ l ∈ filings, Solid l := by decide
    have hbegins : spaced ws = ("file".toList ++ ending) ++ b :: (bs ++ later) := by
      rw [show spaced ws = _ from ht]
      simp
    exact hother _ hword (head_eq_of_blank_after hws.solid (hsolid _ hword) hb hbegins)
  | some ⟨w, hw⟩ =>
    refine advance_optional_present ?_
    simp only [inOrder, advance_andThen]
    have hblanks := advance_blanks hws h
    rcases List.mem_cons.mp hw with rfl | hw
    · show (word "file").advance _ ⟨spaced ("file".toList :: ws), g⟩ = some r
      rw [spaced_cons _ hne]
      refine (advance_literal _ _).trans ((advance_optional_absent ?_).trans hblanks)
      rintro t later ht rfl
      exact absurd (List.cons.inj ht).1 (by decide)
    · obtain rfl := List.mem_singleton.mp hw
      show (word "file").advance _ ⟨spaced ("files".toList :: ws), g⟩ = some r
      rw [spaced_cons _ hne]
      refine (advance_literal "file".toList ("s".toList ++ ' ' :: spaced ws)).trans ?_
      refine advance_optional_present ?_
      exact (advance_literal "s".toList (' ' :: spaced ws)).trans hblanks

/-- An extension, with a dot before it or without. -/
theorem advance_extension (dot : Bool) {extension : List Char} (hext : PlainWord .word extension)
    (hne : ws ≠ []) (hws : Worded ws) (h : k ⟨spaced ws, extension :: g⟩ = some r) :
    (optional (word ".")).advance ((group (run .word)).advance (Rule.blanks.advance k))
      ⟨spaced (((if dot then ['.'] else []) ++ extension) :: ws), g⟩ = some r := by
  have hgroup : (group (run .word)).advance (Rule.blanks.advance k)
      ⟨extension ++ ' ' :: spaced ws, g⟩ = some r := by
    refine advance_group hext.nonempty (fun c hc => (hext.within c hc).1) (advance_blanks hws h) ?_
    intro v s hv hin hsplit
    obtain ⟨c, v, rfl⟩ := List.exists_cons_of_ne_nil hv
    obtain ⟨rfl, _⟩ := List.cons.inj hsplit
    exact absurd (hin ' ' (by simp)) (by decide +kernel)
  rw [spaced_cons _ hne]
  cases dot with
  | true =>
    refine advance_optional_present ?_
    exact (advance_literal ['.'] _).trans hgroup
  | false =>
    refine (advance_optional_absent ?_).trans hgroup
    rintro t later ht rfl
    obtain ⟨c, extension, rfl⟩ := List.exists_cons_of_ne_nil hext.nonempty
    have hdot : c = '.' := (List.cons.inj ht).1
    have hin := (hext.within c (by simp)).1
    rw [hdot] at hin
    exact absurd hin (by decide +kernel)

end Steps

/-- The rule takes the whole text of these words, with these groups. -/
def Takes (r : Rule) (ws groups : List (List Char)) : Prop :=
  r.find (spaced ws) = some ⟨spaced ws, groups⟩

theorem takes_of_advance {r : Rule} {p : Pattern} (hr : r.isWholeText = false) (hp : r.pattern = p)
    {ws groups : List (List Char)}
    (h : ∀ (k : Cursor → Option Found) (m : Found), k ⟨[], groups.reverse⟩ = some m →
      p.advance k ⟨spaced ws, []⟩ = some m) : Takes r ws groups := by
  rw [Takes, Rule.find, hr, hp]
  exact search_of_matchHere (matchHere_eq h)

section Own
variable {cls : CharClass} {o o' : Operand} {seps : List (List Char)} {w : List Char}

theorem worded_operands (ho : o.Plain cls) (hseps : Separators seps) (hw : w ∈ seps)
    (ho' : o'.Plain .name) : Worded (o.chunks ++ w :: o'.chunks) :=
  List.forall_mem_append.mpr ⟨ho.worded, hseps.worded hw ho'.worded⟩

theorem takes_renameFolder (folder : Bool) (ho : o.Plain .name) (ho' : o'.Plain .name) :
    Takes .renameFolder ("rename".toList ::
      (given folder "folder" ++ (o.chunks ++ "to".toList :: o'.chunks))) [o.phrase, o'.phrase] := by
  have hpattern : Rule.pattern .renameFolder = inOrder [word "rename", Rule.blanks,
      Rule.optionalWord "folder", quotedRun .name, Rule.blanks, firstOf (["to".toList].map literal),
      Rule.blanks, Rule.folderName] := rfl
  refine takes_of_advance rfl hpattern fun k m hk => ?_
  simp only [inOrder, advance_andThen]
  refine advance_opening "rename" folder (by simp) ?_ (ho.head_free (by decide) _) ?_
  · exact worded_operands ho separators_to (by decide) ho'
  · exact advance_operands forOperands_name separators_to (by decide) ho ho' hk

/-- Deleting and opening a folder are written alike. -/
theorem takes_folder {r : Rule} {s : String} (hr : r.isWholeText = false)
    (hpattern : r.pattern = inOrder [word s, Rule.blanks, Rule.optionalWord "folder",
      quotedRun .name]) (folder : Bool) (ho : o.Plain .name) :
    Takes r (s.toList :: (given folder "folder" ++ o.chunks)) [o.phrase] := by
  refine takes_of_advance hr hpattern fun k m hk => ?_
  simp only [inOrder, advance_andThen]
  have hhead := ho.head_free (w := "folder".toList) (by decide) []
  rw [List.append_nil] at hhead
  refine advance_opening s folder (Operand.chunks_ne_nil ho.nonempty) ho.worded hhead ?_
  exact advance_operand_last forOperands_name ho hk

theorem takes_createNested (article fresh : Bool) (naming : Option (OneOf namings))
    (place : OneOf places) (ho : o.Plain .name) (ho' : o'.Plain .name) :
    Takes .createNested ("create".toList ::
      (creation article fresh naming ++ (o.chunks ++ place.word :: o'.chunks)))
      [o.phrase, o'.phrase] := by
  have hpattern : Rule.pattern .createNested = inOrder [Rule.createOpening, quotedRun .name,
      Rule.blanks, firstOf (places.map literal), Rule.blanks, Rule.folderName] := rfl
  refine takes_of_advance rfl hpattern fun k m hk => ?_
  simp only [inOrder, advance_andThen]
  refine advance_createOpening article fresh naming (by simp) ?_ ?_ ?_
  · exact worded_operands ho separators_places place.mem ho'
  · exact fun l hl => ho.head_free hl _
  · exact advance_operands forOperands_name separators_places place.mem ho ho' hk

theorem takes_createSimple (article fresh : Bool) (naming : Option (OneOf namings))
    (ho : o.Plain .name) :
    Takes .createSimple ("create".toList :: (creation article fresh naming ++ o.chunks))
      [o.phrase] := by
  have hpattern : Rule.pattern .createSimple = inOrder [Rule.createOpening, quotedRun .name] := rfl
  refine takes_of_advance rfl hpattern fun k m hk => ?_
  simp only [inOrder, advance_andThen]
  refine advance_createOpening article fresh naming (Operand.chunks_ne_nil ho.nonempty) ho.worded ?_ ?_
  · intro l hl
    have hhead := ho.head_free hl []
    rwa [List.append_nil] at hhead
  · exact advance_operand_last forOperands_name ho hk

theorem takes_moveFile (toward : OneOf towards) (ho : o.Plain .fileName) (ho' : o'.Plain .name) :
    Takes .moveFile ("move".toList :: (o.chunks ++ toward.word :: o'.chunks))
      [o.phrase, o'.phrase] := by
  have hpattern : Rule.pattern .moveFile = inOrder [word "move", Rule.blanks, quotedRun .fileName,
      Rule.blanks, firstOf (towards.map literal), Rule.blanks, Rule.folderName] := rfl
  refine takes_of_advance rfl hpattern fun k m hk => ?_
  simp only [inOrder, advance_andThen]
  refine advance_keyword "move" (by simp) ?_ ?_
  · exact worded_operands ho separators_towards toward.mem ho'
  · exact advance_operands forOperands_fileName separators_towards toward.mem ho ho' hk

theorem takes_moveByExtension (dot : Bool) {extension : List Char}
    (filing : Option (OneOf filings)) (toward : OneOf towards) (hext : PlainWord .word extension)
    (ho : o.Plain .name) {ws : List (List Char)}
    (hws : ws = chosen filing ++ toward.word :: o.chunks) :
    Takes .moveByExtension ("move".toList :: "all".toList ::
      ((if dot then ['.'] else []) ++ extension) :: ws) [extension, o.phrase] := by
  have hpattern : Rule.pattern .moveByExtension = inOrder [word "move", Rule.blanks, word "all",
      Rule.blanks, optional (word "."), group (run .word), Rule.blanks,
      optional (inOrder [word "file", optional (word "s"), Rule.blanks]),
      firstOf (towards.map literal), Rule.blanks, Rule.folderName] := rfl
  have hfilings : filings ⊆ structureWords := by decide
  have htoward := separators_towards.worded toward.mem ho.worded
  have hrest : Worded ws := by
    rw [hws]
    exact worded_append (fun w hw => hfilings (chosen_mem hw)) htoward
  have hne : ws ≠ [] := by simp [hws]
  have hquiet := quiet_extension dot hext
  have hnamed : Worded (((if dot then ['.'] else []) ++ extension) :: ws) :=
    List.forall_mem_cons.mpr ⟨⟨hquiet.nonempty, hquiet.solid⟩, hrest⟩
  refine takes_of_advance rfl hpattern fun k m hk => ?_
  simp only [inOrder, advance_andThen]
  refine advance_keyword "move" (by simp) (List.forall_mem_cons.mpr ⟨by decide, hnamed⟩) ?_
  refine advance_keyword "all" (by simp) hnamed ?_
  refine advance_extension dot hext hne hrest ?_
  rw [hws]
  refine advance_filing filing (by simp) htoward ?_ ?_
  · intro l hl heq
    have hapart : ∀ l ∈ filings, l ∉ towards := by decide
    exact hapart l hl (Option.some.inj heq ▸ toward.mem)
  · exact advance_separator_operand separators_towards toward.mem ho hk

end Own

/-- **The command's own rule takes the whole text, and its groups are the operands.** -/
theorem find_own (h : c.Plain) : c.rule.find c.text = some ⟨c.text, c.operands⟩ := by
  rw [text_eq h]
  show Takes c.rule c.chunks c.operands
  cases c with
  | renameFolder folder old new =>
    show Takes .renameFolder ("rename".toList :: _) _
    simpa [rest, words_chunks, Piece.chunks, operands] using
      takes_renameFolder folder h.1 h.2
  | deleteFolder folder name =>
    show Takes .deleteFolder ("delete".toList :: _) _
    have htakes := @takes_folder name .deleteFolder "delete" rfl rfl folder h
    simpa [rest, words_chunks, Piece.chunks, operands] using htakes
  | createNested article fresh naming name place parent =>
    show Takes .createNested ("create".toList :: _) _
    simpa [rest, words_chunks, Piece.chunks, operands] using
      takes_createNested article fresh naming place h.1 h.2
  | createSimple article fresh naming name =>
    show Takes .createSimple ("create".toList :: _) _
    simpa [rest, words_chunks, Piece.chunks, operands] using
      takes_createSimple article fresh naming h
  | moveByExtension dot extension filing toward target =>
    show Takes .moveByExtension ("move".toList :: _) _
    have htakes := takes_moveByExtension dot filing toward h.1 h.2 rfl
    simpa [rest, words_chunks, Piece.chunks, operands] using htakes
  | moveFile file toward target =>
    show Takes .moveFile ("move".toList :: _) _
    simpa [rest, Piece.chunks, operands] using takes_moveFile toward h.1 h.2
  | openFolder folder name =>
    show Takes .openFolder ("open".toList :: _) _
    have htakes := @takes_folder name .openFolder "open" rfl rfl folder h
    simpa [rest, words_chunks, Piece.chunks, operands] using htakes

theorem normalise_text (h : c.Plain) : normalise (String.ofList c.text) = c.text := by
  rw [text_eq h]
  exact normalise_eq (worded_chunks h) fun w hw => (chunk_mem h w hw).2.2

theorem firstRule_text (h : c.Plain) :
    firstRule (normalise (String.ofList c.text)) = some (c.rule, ⟨c.text, c.operands⟩) := by
  have hsplit : ∃ later, Rule.all = Rule.all.takeWhile (· != c.rule) ++ c.rule :: later := by
    cases c <;> exact ⟨_, rfl⟩
  obtain ⟨later, hall⟩ := hsplit
  rw [normalise_text h, firstRule]
  refine List.findSome?_eq_some_iff.mpr ⟨_, c.rule, later, hall, ?_, ?_⟩
  · rw [find_own h]; rfl
  · intro r hr
    rw [find_eq_none h hr]
    rfl

/-- **A canonical command is read back**: the first rule found in it is its own, the groups are exactly
the operands, and these decide the intent. -/
theorem recognise_text (c : Canonical) (h : c.Plain) :
    firstRule (normalise (String.ofList c.text)) = some (c.rule, ⟨c.text, c.operands⟩) ∧
    ∀ store, recognise (String.ofList c.text) store = intentOf c.rule ⟨c.text, c.operands⟩ store := by
  refine ⟨firstRule_text h, fun store => ?_⟩
  rw [recognise, firstRule_text h]

/-- A folder of two words in quotes is renamed to one with a hyphen. -/
theorem recognise_text_rename :
    firstRule (normalise "rename folder \"old images\" to my-pictures") =
      some (.renameFolder, ⟨"rename folder \"old images\" to my-pictures".toList,
        ["old images".toList, "my-pictures".toList]⟩) := by
  have hword : ∀ w ∈ ["old".toList, "images".toList, "my-pictures".toList], PlainWord .name w := by
    intro w hw
    have hfacts : ∀ w ∈ ["old".toList, "images".toList, "my-pictures".toList], w ≠ [] ∧
        w.all CharClass.name.contains ∧ Solid w ∧ lower w = w ∧ w ∉ structureWords ∧
        ∀ k ∈ commandWords, ¬ k <:+ w := by decide +kernel
    obtain ⟨hne, hin, hsolid, hsmall, hfree, hending⟩ := hfacts w hw
    exact ⟨hne, fun c hc => ⟨List.all_eq_true.mp hin c hc, hsolid c hc⟩, hsmall, hfree, hending⟩
  have hold : Operand.Plain .name ⟨["old".toList, "images".toList], .double⟩ :=
    ⟨by decide, fun w hw => hword w (List.mem_append_left ["my-pictures".toList] hw)⟩
  have hnew : Operand.Plain .name ⟨["my-pictures".toList], .absent⟩ :=
    ⟨by decide, fun w hw => hword w (List.mem_append_right ["old".toList, "images".toList] hw)⟩
  exact (recognise_text (.renameFolder true ⟨["old".toList, "images".toList], .double⟩
    ⟨["my-pictures".toList], .absent⟩) ⟨hold, hnew⟩).1

end Canonical

end FolderTalk.Command
