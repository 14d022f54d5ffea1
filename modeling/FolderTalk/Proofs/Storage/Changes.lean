import FolderTalk.Proofs.Storage.Disk

/-!
# What operations do to a disk

Each operation on a path is what it does at the place that the path leads to.

* `Laid`, `layDirectories_came` : the directories down to a place can be made if no file is in the
  way, and nothing is changed otherwise;
* `Confined` : all that has changed is files in one directory and the directories on the way to it.
-/

namespace FolderTalk.Disk

open FolderTalk.Path

variable {d d' d₁ d₂ : Disk} {p q path place dir : Path} {name : String} {doc : Document}

/-! ## Reading at a place -/

theorem Reaches.holds (hd : d.Sound) (h : d.Reaches path place) :
    d.holds path = .ok (d.isDirectory place || (d.file? place).isSome) := by
  unfold Disk.holds
  cases hroom : d.isDirectory place.dropLast with
  | true => rw [h.at_of_room _ hd hroom]
  | false =>
    obtain ⟨hdir, hfile⟩ := hd.nothing_of_no_room hroom
    obtain ⟨e, hat, hrefused⟩ := h.at_refused
      (fun p => .ok (d.isDirectory p || (d.file? p).isSome)) hd hroom
    rw [hat, hdir, hfile]
    cases hrefused <;> rfl

theorem Reaches.holdsDirectory (hd : d.Sound) (h : d.Reaches path place) :
    d.holdsDirectory path = d.isDirectory place := by
  unfold Disk.holdsDirectory
  cases hroom : d.isDirectory place.dropLast with
  | true => rw [h.at_of_room _ hd hroom]
  | false =>
    obtain ⟨e, hat, _⟩ := h.at_refused (fun p => .ok (d.isDirectory p)) hd hroom
    rw [hat, (hd.nothing_of_no_room hroom).1]

theorem Reaches.content_of_file (hd : d.Sound) (h : d.Reaches path place)
    (hfile : d.file? place = some doc) : d.content path = .ok doc := by
  have hroom := hd.filed place (by rw [hfile]; rfl)
  unfold Disk.content
  rw [h.at_of_room _ hd hroom, hfile]

theorem Reaches.content_of_directory (hd : d.Sound) (h : d.Reaches path place)
    (hplace : d.isDirectory place) : d.content path = .error (.disk .isDirectory path.text) := by
  unfold Disk.content
  rw [h.at_of_room _ hd (hd.housed place hplace), hd.file?_of_isDirectory hplace, hplace]
  rfl

/-! ## Changing a place -/

theorem Reaches.writeContent (hd : d.Sound) (h : d.Reaches path place)
    (hroom : d.isDirectory place.dropLast) :
    d.writeContent path doc =
      if d.isDirectory place then .error (.disk .isDirectory path.text)
      else .ok (d.putFile place doc) := by
  unfold Disk.writeContent
  rw [h.at_of_room _ hd hroom]
  by_cases hplace : d.isDirectory place
  · rw [if_pos hplace, if_pos hplace]
  · rw [if_neg hplace, if_neg hplace]

theorem Reaches.discard (hd : d.Sound) (h : d.Reaches path place)
    (hroom : d.isDirectory place.dropLast) :
    d.discard path =
      if (d.file? place).isSome then .ok (d.dropFile place)
      else .error (.disk (if d.isDirectory place then .isDirectory else .missing) path.text) := by
  unfold Disk.discard
  rw [h.at_of_room _ hd hroom]
  by_cases hfile : (d.file? place).isSome
  · rw [if_pos hfile, if_pos hfile]
  · rw [if_neg hfile, if_neg hfile]

theorem Reaches.touch (hd : d.Sound) (h : d.Reaches path place)
    (hroom : d.isDirectory place.dropLast) :
    d.touch path = .ok (if d.isDirectory place || (d.file? place).isSome then d
      else d.putFile place (.text "")) := by
  unfold Disk.touch
  rw [h.at_of_room _ hd hroom]

theorem Reaches.makeDirectory (hd : d.Sound) (h : d.Reaches path place)
    (hroom : d.isDirectory place.dropLast) :
    d.makeDirectory path =
      if d.isDirectory place || (d.file? place).isSome then .error (.disk .occupied path.text)
      else .ok { d with directories := d.directories ++ [place] } := by
  unfold Disk.makeDirectory
  rw [h.at_of_room _ hd hroom]
  by_cases hthere : d.isDirectory place || (d.file? place).isSome
  · rw [if_pos hthere, if_pos hthere]
  · rw [if_neg hthere, if_neg hthere]

theorem Reaches.makeDirectory_refused (hd : d.Sound) (h : d.Reaches path place)
    (hroom : d.isDirectory place.dropLast = false) :
    ∃ e, d.makeDirectory path = .error (.disk e path.text) ∧ d.Refused place.dropLast e :=
  h.at_refused _ hd hroom

/-! ## What is changed by a file -/

theorem file?_putFile_self (d : Disk) (p : Path) (doc : Document) :
    (d.putFile p doc).file? p = some doc := by
  unfold putFile
  split
  · next hfound => exact lookup_replace_self hfound
  · next habsent => exact lookup_concat_self (Option.not_isSome_iff_eq_none.mp habsent)

theorem file?_putFile_other (h : q ≠ p) : (d.putFile p doc).file? q = d.file? q := by
  unfold putFile
  split
  · exact lookup_replace_other h
  · exact lookup_concat_other h

theorem file?_dropFile_self (d : Disk) (p : Path) : (d.dropFile p).file? p = none :=
  (lookup_filter (· != p)).trans (if_neg (by simp))

theorem file?_dropFile_other (h : q ≠ p) : (d.dropFile p).file? q = d.file? q :=
  (lookup_filter (· != p)).trans (if_pos (by simpa using h))

@[simp] theorem directories_putFile (d : Disk) (p : Path) (doc : Document) :
    (d.putFile p doc).directories = d.directories := by
  unfold putFile
  split <;> rfl

@[simp] theorem isDirectory_putFile (d : Disk) (p : Path) (doc : Document) (q : Path) :
    (d.putFile p doc).isDirectory q = d.isDirectory q := by
  rw [isDirectory, isDirectory, directories_putFile]

@[simp] theorem isDirectory_dropFile (d : Disk) (p q : Path) :
    (d.dropFile p).isDirectory q = d.isDirectory q := rfl

theorem Sound.putFile (hd : d.Sound) (hroom : d.isDirectory p.dropLast)
    (hplace : d.isDirectory p = false) (doc : Document) : (d.putFile p doc).Sound := by
  have hfiles : ∀ q, ((d.putFile p doc).file? q).isSome → q = p ∨ (d.file? q).isSome := by
    intro q hq
    by_cases hqp : q = p
    · exact .inl hqp
    · exact .inr (file?_putFile_other hqp ▸ hq)
  refine ⟨fun q hq => ?_, fun q hq => ?_, fun q hq => ?_⟩
  · rw [isDirectory_putFile] at hq ⊢
    exact hd.housed q hq
  · rw [isDirectory_putFile]
    obtain rfl | hq := hfiles q hq
    · exact hroom
    · exact hd.filed q hq
  · rw [isDirectory_putFile]
    obtain rfl | hq := hfiles q hq
    · exact hplace
    · exact hd.apart q hq

theorem Sound.dropFile (hd : d.Sound) (p : Path) : (d.dropFile p).Sound := by
  have hfiles : ∀ q, ((d.dropFile p).file? q).isSome → (d.file? q).isSome := by
    intro q hq
    by_cases hqp : q = p
    · rw [hqp, file?_dropFile_self] at hq
      cases hq
    · exact file?_dropFile_other hqp ▸ hq
  exact ⟨hd.housed, fun q hq => hd.filed q (hfiles q hq), fun q hq => hd.apart q (hfiles q hq)⟩

/-! ## Making directories -/

/-- The directories down to a place have been made, as far as they were missing. -/
structure Laid (d : Disk) (place : Path) (d' : Disk) : Prop where
  files : d'.files = d.files
  directories : ∃ added, d'.directories = d.directories ++ added ∧
    ∀ q, q ∈ added ↔ q <+: place ∧ d.isDirectory q = false

namespace Laid

theorem file? (h : Laid d place d') (q : Path) : d'.file? q = d.file? q := by
  rw [Disk.file?, Disk.file?, h.files]

theorem isDirectory_iff (h : Laid d place d') :
    d'.isDirectory q ↔ d.isDirectory q ∨ q <+: place := by
  obtain ⟨added, hdirs, hadded⟩ := h.directories
  rw [Disk.isDirectory_iff, hdirs, List.mem_append, ← or_assoc, ← Disk.isDirectory_iff, hadded]
  by_cases hq : d.isDirectory q
  · simp [hq]
  · simp [hq]

theorem mono (h : Laid d place d') (q : Path) (hq : d.isDirectory q) : d'.isDirectory q :=
  h.isDirectory_iff.mpr (.inl hq)

theorem isDirectory_place (h : Laid d place d') : d'.isDirectory place :=
  h.isDirectory_iff.mpr (.inr List.prefix_rfl)

theorem sound (hd : d.Sound) (hfree : d.Unblocked place) (h : Laid d place d') : d'.Sound := by
  refine ⟨fun q hq => ?_, fun q hq => ?_, fun q hq => ?_⟩
  · refine h.isDirectory_iff.mpr ?_
    obtain hq | hq := h.isDirectory_iff.mp hq
    · exact .inl (hd.housed q hq)
    · exact .inr ((List.dropLast_prefix q).trans hq)
  · rw [h.file?] at hq
    exact h.mono _ (hd.filed q hq)
  · rw [h.file?] at hq
    rw [← Bool.not_eq_true, h.isDirectory_iff]
    rintro (hdir | habove)
    · rw [hd.apart q hq] at hdir
      cases hdir
    · rw [hfree q habove] at hq
      cases hq

/-- Nothing has to be made down to a directory. -/
theorem of_isDirectory (hd : d.Sound) (h : d.isDirectory place) : Laid d place d := by
  refine ⟨rfl, [], (List.append_nil _).symm, fun q => ⟨fun hq => ?_, fun ⟨hq, hno⟩ => ?_⟩⟩
  · cases hq
  · rw [hd.isDirectory_above h hq] at hno
    cases hno

/-- One more directory, inside one that was there or has been made. -/
theorem concat (h : Laid d place d₁) (hno : d.isDirectory (place ++ [name]) = false) :
    Laid d (place ++ [name]) { d₁ with directories := d₁.directories ++ [place ++ [name]] } := by
  obtain ⟨added, hdirs, hadded⟩ := h.directories
  refine ⟨h.files, added ++ [place ++ [name]], ?_, fun q => ?_⟩
  · show d₁.directories ++ _ = _
    rw [hdirs, List.append_assoc]
  · rw [List.mem_append, hadded, List.mem_singleton, List.prefix_concat_iff]
    constructor
    · rintro (⟨hq, hdir⟩ | rfl)
      · exact ⟨.inr hq, hdir⟩
      · exact ⟨.inl rfl, hno⟩
    · rintro ⟨rfl | hq, hdir⟩
      · exact .inr rfl
      · exact .inl ⟨hq, hdir⟩

end Laid

theorem layDirectories_of_isDirectory (hd : d.Sound) (h : d.Reaches path place)
    (hplace : d.isDirectory place) : d.layDirectories path = (d, none) := by
  rw [layDirectories, h.makeDirectory hd (hd.housed place hplace), hplace]
  simp only [Bool.true_or, if_true, unlessDirectory, h.holdsDirectory hd, hplace, Fault.isDisk,
    Bool.and_self]

/-- A directory is made inside one that is there. -/
theorem layDirectories_in (hd : d.Sound) (h : d.Reaches path (place ++ [name]))
    (hroom : d.isDirectory place) (hno : d.isDirectory (place ++ [name]) = false) :
    (d.Unblocked (place ++ [name]) ∧
        ∃ d', d.layDirectories path = (d', none) ∧ Laid d (place ++ [name]) d') ∨
      (¬ d.Unblocked (place ++ [name]) ∧ ∃ f, d.layDirectories path = (d, some f)) := by
  have hmake := h.makeDirectory hd (by rwa [List.dropLast_concat])
  have hholds := h.holdsDirectory hd
  rw [unblocked_concat_iff hd hroom, layDirectories, hmake, hno, Bool.false_or]
  cases hfile : d.file? (place ++ [name]) with
  | none => exact .inl ⟨rfl, _, rfl, (Laid.of_isDirectory hd hroom).concat hno⟩
  | some doc =>
    refine .inr ⟨nofun, ?_⟩
    simp only [Option.isSome_some, if_true, unlessDirectory, hholds, hno, Bool.and_false]
    exact ⟨_, rfl⟩

/-- A directory is made after those above it have been, or cannot be. -/
theorem layDirectories_below {before : Path} (hd : d.Sound)
    (h : d.Reaches (before ++ [name]) (place ++ [name])) (hroom : d.isDirectory place = false)
    (hbefore : (d.Unblocked place ∧
        ∃ d', d.layDirectories before = (d', none) ∧ Laid d place d') ∨
      (¬ d.Unblocked place ∧ ∃ f, d.layDirectories before = (d, some f))) :
    (d.Unblocked (place ++ [name]) ∧
        ∃ d', d.layDirectories (before ++ [name]) = (d', none) ∧ Laid d (place ++ [name]) d') ∨
      (¬ d.Unblocked (place ++ [name]) ∧
        ∃ f, d.layDirectories (before ++ [name]) = (d, some f)) := by
  have hroom' : d.isDirectory (place ++ [name]).dropLast = false := by rwa [List.dropLast_concat]
  obtain ⟨hno, hfile⟩ := hd.nothing_of_no_room hroom'
  obtain ⟨e, hrefuse, hwhy⟩ := h.makeDirectory_refused hd hroom'
  rw [List.dropLast_concat] at hwhy
  rw [layDirectories, hrefuse]
  cases hwhy with
  | missing hfree =>
    obtain ⟨_, d₁, hlay, hlaid⟩ := hbefore.resolve_right fun hblocked => hblocked.1 hfree
    have hmake := (h.mono hlaid.mono).makeDirectory (hlaid.sound hd hfree)
      (by rw [List.dropLast_concat]; exact hlaid.isDirectory_place)
    have hno₁ : d₁.isDirectory (place ++ [name]) = false := by
      rw [← Bool.not_eq_true, hlaid.isDirectory_iff, hno]
      exact fun hyes => hyes.elim Bool.false_ne_true (not_prefix_self place name)
    rw [hno₁, hlaid.file?, hfile] at hmake
    refine .inl ⟨fun q hq => ?_, _, ?_, hlaid.concat hno⟩
    · obtain rfl | hq := List.prefix_concat_iff.mp hq
      · exact hfile
      · exact hfree q hq
    · have hsome : List.isEmpty (before ++ [name]) = false := by simp
      simp only [hsome, List.dropLast_concat, hlay, hmake]
      rfl
  | blocked hblocked =>
    refine .inr ⟨fun hfree => hblocked fun q hq => hfree q (hq.trans (List.prefix_append _ _)), ?_⟩
    simp only [unlessDirectory, h.holdsDirectory hd, hno, Bool.and_false]
    exact ⟨_, rfl⟩

/-- **Making directories** succeeds unless a file is at the place or above it, and leaves the disk
as it is then. -/
theorem layDirectories_came (hd : d.Sound) (h : d.Reaches path place) :
    (d.Unblocked place ∧ ∃ d', d.layDirectories path = (d', none) ∧ Laid d place d') ∨
      (¬ d.Unblocked place ∧ ∃ f, d.layDirectories path = (d, some f)) := by
  obtain ⟨way, at_, rest, rfl, rfl, hway, hnull, hrest⟩ := h
  -- The directories are made from the last one that is there, one name at a time.
  induction rest using List.reverseRecOn with
  | nil =>
    have hplace := isDirectory_of_follow hd (isDirectory_nil d) hway
    rw [List.append_nil, List.append_nil]
    have hreach : d.Reaches way at_ := ⟨way, at_, [], by simp, by simp, hway, hnull, hrest⟩
    exact .inl ⟨hd.unblocked_of_isDirectory hplace, d, layDirectories_of_isDirectory hd hreach hplace,
      .of_isDirectory hd hplace⟩
  | append_singleton rest name ih =>
    have hparent : d.Reaches (way ++ rest) (at_ ++ rest) :=
      ⟨way, at_, rest, rfl, rfl, hway, hnull, hrest.left⟩
    have hreach := hparent.append hrest.right
    rw [← List.append_assoc, ← List.append_assoc]
    have ih := ih hrest.left
    generalize way ++ rest = before at ih hparent hreach ⊢
    generalize at_ ++ rest = around at ih hparent hreach ⊢
    by_cases hplace : d.isDirectory (around ++ [name])
    · exact .inl ⟨hd.unblocked_of_isDirectory hplace, d, layDirectories_of_isDirectory hd hreach hplace,
        .of_isDirectory hd hplace⟩
    rw [Bool.not_eq_true] at hplace
    by_cases hroom : d.isDirectory around
    · exact layDirectories_in hd hreach hroom hplace
    · rw [Bool.not_eq_true] at hroom
      exact layDirectories_below hd hreach hroom ih

/-! ## Changes in one directory -/

/-- The names that paths have in a directory. -/
def children (dir : Path) (ps : List Path) : List String :=
  ps.filterMap fun q => if !q.isEmpty && q.dropLast == dir then q.getLast? else none

theorem children_append (dir : Path) (ps qs : List Path) :
    children dir (ps ++ qs) = children dir ps ++ children dir qs := List.filterMap_append

theorem children_cons (dir p : Path) (ps : List Path) :
    children dir (p :: ps) = children dir [p] ++ children dir ps := children_append dir [p] ps

/-- The names in a directory are those of the paths in it. -/
theorem mem_children_iff {ps : List Path} : name ∈ children dir ps ↔ dir ++ [name] ∈ ps := by
  refine ⟨fun h => ?_, fun h => List.mem_filterMap.mpr ⟨_, h, by simp⟩⟩
  obtain ⟨q, hq, hname⟩ := List.mem_filterMap.mp h
  split at hname
  · next hin =>
    rw [Bool.and_eq_true, beq_iff_eq] at hin
    obtain ⟨last, hlast⟩ := List.getLast?_eq_some_iff.mp hname
    rw [hlast, List.dropLast_concat] at hin
    rwa [← hin.2, ← hlast]
  · cases hname

theorem children_eq_nil {ps : List Path} (h : ∀ q ∈ ps, q.dropLast ≠ dir) :
    children dir ps = [] := by
  refine List.filterMap_eq_nil_iff.mpr fun q hq => if_neg ?_
  rw [Bool.and_eq_true, beq_iff_eq]
  exact fun hin => h q hq hin.2

theorem children_elsewhere (h : p.dropLast ≠ dir) : children dir [p] = [] :=
  children_eq_nil fun _ hq => List.mem_singleton.mp hq ▸ h

/-- Nothing lies in a directory that is not there. -/
theorem Sound.children_eq_nil (hd : d.Sound) (h : d.isDirectory dir = false) :
    children dir (d.directories ++ d.files.map (·.1)) = [] := by
  refine Disk.children_eq_nil fun q hq hdir => ?_
  rw [← hdir] at h
  obtain ⟨hno, hfile⟩ := hd.nothing_of_no_room h
  obtain hq | hq := List.mem_append.mp hq
  · rw [Disk.isDirectory_iff.mpr (.inr hq)] at hno
    cases hno
  · obtain ⟨e, he, rfl⟩ := List.mem_map.mp hq
    rw [Disk.file?, List.lookup_eq_none_iff] at hfile
    exact bne_iff_ne.mp (hfile e he) rfl

/-- All that has changed is files in the directory; it and the directories above it may have been
made. -/
structure Confined (dir : Path) (d d' : Disk) : Prop where
  directories : ∃ added, d'.directories = d.directories ++ added ∧ ∀ q ∈ added, q <+: dir
  files : ∀ q, q.dropLast ≠ dir → d'.file? q = d.file? q
  names : ∀ p, p ≠ dir →
    children p (d'.files.map (·.1)) = children p (d.files.map (·.1))

namespace Confined

theorem refl (dir : Path) (d : Disk) : Confined dir d d :=
  ⟨⟨[], (List.append_nil _).symm, fun _ hq => absurd hq List.not_mem_nil⟩, fun _ _ => rfl,
    fun _ _ => rfl⟩

theorem trans (h : Confined dir d d₁) (h' : Confined dir d₁ d₂) : Confined dir d d₂ := by
  obtain ⟨added, hdirs, hadded⟩ := h.directories
  obtain ⟨added', hdirs', hadded'⟩ := h'.directories
  refine ⟨⟨added ++ added', ?_, ?_⟩, fun q hq => (h'.files q hq).trans (h.files q hq),
    fun p hp => (h'.names p hp).trans (h.names p hp)⟩
  · rw [hdirs', hdirs, List.append_assoc]
  · exact fun q hq => (List.mem_append.mp hq).elim (hadded q) (hadded' q)

theorem isDirectory_iff (h : Confined dir d d') (hq : ¬ q <+: dir) :
    d'.isDirectory q = d.isDirectory q := by
  obtain ⟨added, hdirs, hadded⟩ := h.directories
  rw [Bool.eq_iff_iff, Disk.isDirectory_iff, Disk.isDirectory_iff, hdirs, List.mem_append,
    or_iff_left fun hmem => hq (hadded q hmem)]

theorem of_laid (h : Laid d dir d') : Confined dir d d' := by
  obtain ⟨added, hdirs, hadded⟩ := h.directories
  exact ⟨⟨added, hdirs, fun q hq => ((hadded q).mp hq).1⟩, fun q _ => h.file? q,
    fun p _ => by rw [h.files]⟩

theorem putFile (h : p.dropLast = dir) (doc : Document) : Confined dir d (d.putFile p doc) := by
  refine ⟨⟨[], by simp, fun _ hq => absurd hq List.not_mem_nil⟩, fun q hq => ?_, fun r hr => ?_⟩
  · exact file?_putFile_other fun hqp => hq (hqp ▸ h)
  · unfold Disk.putFile
    split
    · have hsame : (d.files.map fun e => if e.1 == p then (p, doc) else e).map (·.1) =
          d.files.map (·.1) := by
        rw [List.map_map]
        refine List.map_congr_left fun e _ => ?_
        by_cases he : e.1 = p
        · simp [he]
        · simp [he]
      rw [hsame]
    · rw [List.map_append, children_append, List.map_singleton,
        children_elsewhere fun heq => hr (heq.symm.trans h), List.append_nil]

theorem dropFile (h : p.dropLast = dir) : Confined dir d (d.dropFile p) := by
  refine ⟨⟨[], (List.append_nil _).symm, fun _ hq => absurd hq List.not_mem_nil⟩, fun q hq => ?_,
    fun r hr => ?_⟩
  · exact file?_dropFile_other fun hqp => hq (hqp ▸ h)
  · show children r ((d.files.filter fun e => e.1 != p).map (·.1)) = _
    induction d.files with
    | nil => rfl
    | cons e files ih =>
      rw [List.map_cons, children_cons, ← ih]
      by_cases he : e.1 = p
      · rw [List.filter_cons_of_neg (by simpa using he),
          children_elsewhere fun heq => hr (heq.symm.trans (he ▸ h)), List.nil_append]
      · rw [List.filter_cons_of_pos (by simpa using he), List.map_cons, children_cons]

end Confined

end FolderTalk.Disk
