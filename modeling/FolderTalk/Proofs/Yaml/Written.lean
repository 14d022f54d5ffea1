import FolderTalk.Proofs.Yaml.Quoting

/-!
# The characters of written text

Whatever is written, the text holds line feeds and printable ASCII only, and every line of it ends
with a line feed.

* `Page.Printable` : a page with such characters that knows where its lines begin;
* `write_simple`, `write_ends` : the text of a mapping.
-/

namespace FolderTalk.Yaml

/-! ## Pages -/

namespace Page

/-- A page with nothing but printable ASCII and line feeds, on which no column is left only where a
line begins. -/
structure Printable (p : Page) : Prop where
  simple : ∀ c ∈ p.text, isSimple [c]
  lineStart : p.column = 0 → ∀ c ∈ p.text.head?, c = '\n'

variable {p : Page} {cs : List Char}

theorem printable_empty : Printable {} := ⟨by simp, by simp⟩

theorem Printable.put (h : p.Printable) (hcs : ∀ c ∈ cs, isSimple [c]) : (p.put cs).Printable where
  simple := by
    rw [put_text]
    exact List.forall_mem_append.mpr ⟨fun c hc => hcs c (List.mem_reverse.mp hc), h.simple⟩
  lineStart hcolumn := by
    have hlength : p.column + cs.length = 0 := hcolumn
    obtain rfl := List.length_eq_zero_iff.mp (Nat.add_eq_zero_iff.mp hlength).2
    exact h.lineStart (Nat.add_eq_zero_iff.mp hlength).1

theorem Printable.newLine (h : p.Printable) : p.newLine.Printable where
  simple := List.forall_mem_cons.mpr ⟨rfl, h.simple⟩
  lineStart _ := by simp [Page.newLine]

theorem Printable.newLines (n : Nat) (h : p.Printable) : (newLines n p).Printable := by
  induction n generalizing p with
  | zero => exact h
  | succ n ih => exact ih h.newLine

/-- What else is known about the line makes no difference. -/
theorem Printable.with (h : p.Printable) (spaced margin : Bool) :
    Printable { p with spaced := spaced, margin := margin } := ⟨h.simple, h.lineStart⟩

theorem Printable.indent (h : p.Printable) (column : Nat) : (p.indent column).Printable := by
  have hline : ∀ q : Page, q.Printable →
      Printable (if q.column < column then
        { q.put (List.replicate (column - q.column) ' ') with spaced := true } else q) := by
    intro q hq
    split
    · exact (hq.put (isSimple_blanks _)).with _ _
    · exact hq
  unfold Page.indent
  apply hline
  split
  · exact h.newLine
  · exact h

theorem Printable.mark (h : p.Printable) (hcs : ∀ c ∈ cs, isSimple [c]) (apart spaced margin : Bool) :
    (p.mark cs apart spaced margin).Printable := by
  unfold Page.mark
  refine (h.put ?_).with _ _
  split
  · exact hcs
  · exact List.forall_mem_cons.mpr ⟨rfl, hcs⟩

theorem Printable.fold (h : p.Printable) (column : Nat) : (p.fold column).Printable :=
  (h.indent column).with _ _

/-! ## Scalars -/

/-- The runs of a text hold its characters. -/
theorem runs_flatten (cs : List Char) : (runs cs).flatten = cs := by
  induction cs with
  | nil => rfl
  | cons c cs ih =>
    rw [runs]
    split
    · next hruns =>
      rw [hruns] at ih
      simp [← ih]
    · next run rest hruns =>
      rw [hruns] at ih
      split <;> simp [← ih]

theorem isSimple_of_mem_runs (hcs : ∀ c ∈ cs, isSimple [c]) :
    ∀ run ∈ runs cs, ∀ c ∈ run, isSimple [c] := by
  intro run hrun c hc
  apply hcs
  rw [← runs_flatten cs]
  exact List.mem_flatten.mpr ⟨run, hrun, hc⟩

variable {split : Bool} {column : Nat} {rs : List (List Char)}

theorem Printable.plainRuns (h : p.Printable) (hrs : ∀ run ∈ rs, ∀ c ∈ run, isSimple [c]) :
    (plainRuns split column p rs).Printable := by
  induction rs generalizing p with
  | nil => exact h
  | cons run rs ih =>
    obtain ⟨hrun, hrs⟩ := List.forall_mem_cons.mp hrs
    rw [Page.plainRuns]
    split
    · exact ih (h.fold column) hrs
    · exact ih (h.put hrun) hrs

theorem Printable.plain (h : p.Printable) (hcs : ∀ c ∈ cs, isSimple [c]) :
    (p.plain split column cs).Printable := by
  unfold Page.plain
  split
  · exact h
  · refine Printable.plainRuns (Printable.with ?_ _ _) (isSimple_of_mem_runs hcs)
    split
    · exact h
    · exact h.put (List.forall_mem_singleton.mpr rfl)

theorem isSimple_doubledQuotes (hcs : ∀ c ∈ cs, isSimple [c]) :
    ∀ c ∈ doubledQuotes cs, isSimple [c] := by
  intro c hc
  obtain ⟨d, hd, hc⟩ := List.mem_flatMap.mp hc
  split at hc
  · exact (List.forall_mem_cons.mpr ⟨rfl, List.forall_mem_singleton.mpr rfl⟩ :
      ∀ c ∈ ['\'', '\''], isSimple [c]) c hc
  · rw [List.mem_singleton.mp hc]
    exact hcs d hd

theorem Printable.singleRuns (first : Bool) (h : p.Printable)
    (hrs : ∀ run ∈ rs, ∀ c ∈ run, isSimple [c]) :
    (singleRuns split column first p rs).Printable := by
  induction rs generalizing first p with
  | nil => exact h
  | cons run rs ih =>
    obtain ⟨hrun, hrs⟩ := List.forall_mem_cons.mp hrs
    rw [Page.singleRuns]
    split
    · exact ih false ((h.newLines _).indent column) hrs
    · split
      · exact ih false (h.indent column) hrs
      · exact ih false (h.put (isSimple_doubledQuotes hrun)) hrs

theorem Printable.single (h : p.Printable) (hcs : ∀ c ∈ cs, isSimple [c]) :
    (p.single split column cs).Printable := by
  have hquote : ∀ c ∈ ['\''], isSimple [c] := List.forall_mem_singleton.mpr rfl
  exact ((h.mark hquote _ _ _).singleRuns true (isSimple_of_mem_runs hcs)).mark hquote _ _ _

theorem isSimple_of_needsEscape {c : Char} (h : needsEscape c = false) : isSimple [c] := by
  simp only [needsEscape, Bool.or_eq_false_iff, Bool.not_eq_false'] at h
  exact isSimple_of_le h.2

theorem Printable.guarded (h : p.Printable) (c : Char) : (doubleChars.guarded c p).Printable := by
  unfold doubleChars.guarded
  split
  · exact h.put (List.forall_mem_singleton.mpr rfl)
  · exact h

/-- Between double quotes every character can be written. -/
theorem Printable.doubleChars {held : List Char} (first : Bool) (h : p.Printable)
    (hheld : ∀ c ∈ held, isSimple [c]) : (doubleChars split column first p held cs).Printable := by
  have hslash : ∀ c ∈ ['\\'], isSimple [c] := List.forall_mem_singleton.mpr rfl
  induction cs generalizing first p held with
  | nil => exact h.put fun c hc => hheld c (List.mem_reverse.mp hc)
  | cons c cs ih =>
    have hput := h.put fun c hc => hheld c (List.mem_reverse.mp hc)
    rw [Page.doubleChars]
    split
    · refine ih false ?_ (List.forall_mem_nil _)
      have hescaped := hput.put (isSimple_escaped c)
      split
      · exact ((hescaped.put hslash).fold column).guarded _
      · exact hescaped
    · next hplain =>
      have hc : isSimple [c] := isSimple_of_needsEscape ((Bool.not_eq_true _).mp hplain)
      split
      · refine ih false (Printable.guarded (Printable.fold (h.put ?_) column) c)
          (List.forall_mem_singleton.mpr hc)
        exact List.forall_mem_append.mpr ⟨fun d hd => hheld d (List.mem_reverse.mp hd), hslash⟩
      · exact ih false h (List.forall_mem_cons.mpr ⟨hc, hheld⟩)

theorem Printable.double (h : p.Printable) : (p.double split column cs).Printable := by
  have hquote : ∀ c ∈ ['"'], isSimple [c] := List.forall_mem_singleton.mpr rfl
  exact ((h.mark hquote _ _ _).doubleChars true (List.forall_mem_nil _)).mark hquote _ _ _

end Page

/-- A style other than double quotes is only for printable text. -/
theorem isSimple_of_choose {flow asKey : Bool} {kind : Kind} {cs : List Char}
    (h : Style.choose flow asKey kind cs ≠ .double) : ∀ c ∈ cs, isSimple [c] := by
  have hall : isSimple cs → ∀ c ∈ cs, isSimple [c] := by
    intro hcs c hc
    simpa [isSimple] using List.all_eq_true.mp hcs c hc
  unfold Style.choose at h
  dsimp only at h
  split at h
  · next hplain =>
    rw [Bool.and_eq_true] at hplain
    have hallows := hplain.2
    unfold allowsPlain at hallows
    split at hallows
    · next hempty => simp [List.isEmpty_iff.mp hempty]
    · simp only [Bool.and_eq_true] at hallows
      exact hall hallows.1.1.1
  · split at h
    · next hsingle =>
      rw [Bool.and_eq_true] at hsingle
      exact (allowsSingle_iff.mp hsingle.1).1
    · exact absurd rfl h

/-! ## Mappings and lists -/

open Page

variable {p : Page}

theorem Page.Printable.scalarOf (h : p.Printable) (flow asKey : Bool) (column : Nat) (v : Value) :
    (writeScalar p flow asKey column v).Printable := by
  unfold writeScalar
  generalize hstyle : Style.choose flow asKey (scalarText v).1 (scalarText v).2.toList = style
  simp only [hstyle, Page.scalar]
  have hsimple : style ≠ .double → ∀ c ∈ (scalarText v).2.toList, isSimple [c] :=
    hstyle ▸ isSimple_of_choose
  cases style with
  | plain => exact h.plain (hsimple (by simp))
  | single => exact h.single (hsimple (by simp))
  | double => exact h.double

theorem Page.Printable.key (h : p.Printable) (column : Nat) (key : Value) :
    (writeKey p column key).Printable := by
  have hcolon : ∀ c ∈ [':'], isSimple [c] := List.forall_mem_singleton.mpr rfl
  have hasked : ∀ c ∈ ['?'], isSimple [c] := List.forall_mem_singleton.mpr rfl
  unfold writeKey
  dsimp only
  split
  · exact ((h.indent column).scalarOf _ _ _ key).mark hcolon _ _ _
  · exact ((((h.indent column).mark hasked _ _ _).scalarOf _ _ _ key).indent column).mark hcolon _ _ _

/-- An empty collection is written as two brackets. -/
theorem Page.Printable.brackets (h : p.Printable) {opening closing : Char}
    (hopening : isSimple [opening]) (hclosing : isSimple [closing]) :
    ((p.mark [opening] true true false).mark [closing] false false false).Printable :=
  (h.mark (List.forall_mem_singleton.mpr hopening) _ _ _).mark
    (List.forall_mem_singleton.mpr hclosing) _ _ _

mutual

theorem Page.Printable.node (v : Value) {p : Page} (h : p.Printable) (outer : Option Nat)
    (inMap : Bool) : (writeNode p outer inMap v).Printable := by
  match v with
  | .list items =>
    rw [writeNode]
    split
    · exact h.brackets rfl rfl
    · exact Page.Printable.items items h _
  | .map entries =>
    rw [writeNode]
    split
    · exact h.brackets rfl rfl
    · exact Page.Printable.entries entries h _
  | .null | .bool _ | .int _ | .float _ | .text _ | .date _ | .moment _ =>
    rw [writeNode]
    · exact h.scalarOf _ _ _ _
    all_goals simp

theorem Page.Printable.items (vs : List Value) {p : Page} (h : p.Printable) (column : Nat) :
    (writeItems p column vs).Printable := by
  match vs with
  | [] =>
    rw [writeItems]
    exact h
  | v :: vs =>
    have hdash : ∀ c ∈ ['-'], isSimple [c] := List.forall_mem_singleton.mpr rfl
    rw [writeItems]
    exact Page.Printable.items vs
      (Page.Printable.node v ((h.indent column).mark hdash _ _ _) _ _) column

theorem Page.Printable.entries (es : List (Value × Value)) {p : Page} (h : p.Printable)
    (column : Nat) : (writeEntries p column es).Printable := by
  match es with
  | [] =>
    rw [writeEntries]
    exact h
  | (key, v) :: es =>
    rw [writeEntries, writeEntry]
    exact Page.Printable.entries es (Page.Printable.node v (h.key column key) _ _) column

end

variable {es : Entries} {body : String}

theorem write_of_isWritable (h : isWritable (.map es)) : write es =
    .ok (String.ofList ((writeNode {} none false (.map es)).indent 0).text.reverse) := by
  rw [write, if_pos h]
  rfl

theorem write_eq_ok (h : write es = .ok body) :
    ∃ p : Page, p.Printable ∧ body.toList = (p.indent 0).text.reverse := by
  unfold write at h
  split at h
  · refine ⟨_, Page.Printable.node (.map es) printable_empty none false, ?_⟩
    rw [← Except.ok.inj h, Page.toString, String.toList_ofList]
  · cases h

/-- **Written text** holds printable ASCII and line feeds only. -/
theorem write_simple (h : write es = .ok body) : ∀ c ∈ body.toList, isSimple [c] := by
  obtain ⟨p, hp, hbody⟩ := write_eq_ok h
  rw [hbody]
  exact fun c hc => (hp.indent 0).simple c (List.mem_reverse.mp hc)

theorem indent_zero_column (p : Page) : (p.indent 0).column = 0 := by
  unfold Page.indent
  rw [if_neg (Nat.not_lt_zero _)]
  split
  · rfl
  · next h =>
    simp only [Bool.or_eq_true, decide_eq_true_eq, not_or, gt_iff_lt] at h
    exact Nat.eq_zero_of_not_pos h.1.2

/-- Written text ends with a line feed. -/
theorem write_ends (h : write es = .ok body) : ∀ c ∈ body.toList.getLast?, c = '\n' := by
  obtain ⟨p, hp, hbody⟩ := write_eq_ok h
  rw [hbody, List.getLast?_reverse]
  exact (hp.indent 0).lineStart (indent_zero_column p)

end FolderTalk.Yaml
