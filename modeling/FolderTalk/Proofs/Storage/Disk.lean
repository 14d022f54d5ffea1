import FolderTalk.Proofs.Storage.Lookup
import FolderTalk.Storage.Disk
import Mathlib.Data.List.Induction
import Mathlib.Data.List.Infix

/-!
# Following paths on a disk

A path is followed name by name. What matters about it is the place that it leads to: what there is
at that place, and whether the directory around it is there.

* `Sound` : the disk is a tree, with directories above everything and files at its leaves;
* `Reaches` : a path leads to a place, whether there is anything at that place or not;
* `Reaches.at_of_room`, `Reaches.at_refused` : an operation is done at the place, if the directory
  around it is there;
* `Laid`, `layDirectories_came` : the directories down to a place can be made if no file is in the
  way.
-/

namespace FolderTalk

namespace Path

/-- The name can stand on a disk. -/
def Holdable (name : String) : Prop := name.utf8ByteSize ≤ 255 ∧ '\x00' ∉ name.toList

instance (name : String) : Decidable (Holdable name) := inferInstanceAs (Decidable (_ ∧ _))

/-- Every name of the path leads down, and can stand on a disk. -/
def Ordinary (p : Path) : Prop := ∀ name ∈ p, name ≠ ".." ∧ Holdable name

instance (p : Path) : Decidable p.Ordinary :=
  inferInstanceAs (Decidable (∀ name ∈ p, _))

variable {p q : Path} {name : String}

theorem Ordinary.append (hp : p.Ordinary) (hq : q.Ordinary) : Ordinary (p ++ q) :=
  fun name hname => (List.mem_append.mp hname).elim (hp name) (hq name)

theorem Ordinary.left (h : Ordinary (p ++ q)) : p.Ordinary :=
  fun name hname => h name (List.mem_append_left q hname)

theorem Ordinary.right (h : Ordinary (p ++ q)) : q.Ordinary :=
  fun name hname => h name (List.mem_append_right p hname)

theorem not_prefix_self (p : Path) (name : String) : ¬ p ++ [name] <+: p := fun h => by
  have hlength := h.length_le
  rw [List.length_append, List.length_singleton] at hlength
  omega

end Path

namespace Disk

open FolderTalk.Path

variable {d d' : Disk} {p q at_ names path place : Path} {name last : String} {doc : Document}

/-- The disk is a tree: around everything there is a directory, and a file is no directory. -/
structure Sound (d : Disk) : Prop where
  housed : ∀ p, d.isDirectory p → d.isDirectory p.dropLast
  filed : ∀ p, (d.file? p).isSome → d.isDirectory p.dropLast
  apart : ∀ p, (d.file? p).isSome → d.isDirectory p = false

/-- No file is at the place or above it. -/
def Unblocked (d : Disk) (place : Path) : Prop := ∀ q, q <+: place → d.file? q = none

/-! ## What there is -/

theorem isDirectory_iff : d.isDirectory p ↔ p = [] ∨ p ∈ d.directories := by
  unfold isDirectory
  rw [Bool.or_eq_true, List.isEmpty_iff, List.contains_iff_mem]

theorem isDirectory_concat : d.isDirectory (p ++ [name]) = d.directories.contains (p ++ [name]) := by
  simp [isDirectory]

theorem isDirectory_nil (d : Disk) : d.isDirectory [] := rfl

theorem isSome_file?_iff : (d.file? p).isSome ↔ ∃ e ∈ d.files, e.1 = p := by
  rw [← not_iff_not, Option.not_isSome_iff_eq_none, file?, List.lookup_eq_none_iff]
  constructor
  · rintro hall ⟨e, he, rfl⟩
    exact bne_iff_ne.mp (hall e he) rfl
  · exact fun hnone e he => bne_iff_ne.mpr fun heq => hnone ⟨e, he, heq.symm⟩

/-- Whether a disk is a tree can be read off its lists. -/
theorem sound_iff : d.Sound ↔ (∀ p ∈ d.directories, d.isDirectory p.dropLast) ∧
    ∀ e ∈ d.files, d.isDirectory e.1.dropLast ∧ d.isDirectory e.1 = false := by
  constructor
  · intro hd
    refine ⟨fun p hp => hd.housed p (isDirectory_iff.mpr (.inr hp)), fun e he => ?_⟩
    have hfile := isSome_file?_iff.mpr ⟨e, he, rfl⟩
    exact ⟨hd.filed e.1 hfile, hd.apart e.1 hfile⟩
  · rintro ⟨hdirs, hfiles⟩
    refine ⟨fun p hp => ?_, fun p hp => ?_, fun p hp => ?_⟩
    · obtain rfl | hp := isDirectory_iff.mp hp
      · exact hp
      · exact hdirs p hp
    · obtain ⟨e, he, rfl⟩ := isSome_file?_iff.mp hp
      exact (hfiles e he).1
    · obtain ⟨e, he, rfl⟩ := isSome_file?_iff.mp hp
      exact (hfiles e he).2

instance (d : Disk) : Decidable d.Sound := decidable_of_iff _ sound_iff.symm

theorem Sound.isDirectory_above (hd : d.Sound) (h : d.isDirectory p) (hq : q <+: p) :
    d.isDirectory q := by
  obtain ⟨rest, rfl⟩ := hq
  induction rest using List.reverseRecOn with
  | nil => rwa [List.append_nil] at h
  | append_singleton rest name ih =>
    apply ih
    have hparent := hd.housed _ h
    rwa [← List.append_assoc, List.dropLast_concat] at hparent

theorem Sound.file?_of_isDirectory (hd : d.Sound) (h : d.isDirectory p) : d.file? p = none := by
  rw [← Option.not_isSome_iff_eq_none]
  intro hfile
  rw [hd.apart p hfile] at h
  cases h

/-- Above a file there are directories only. -/
theorem Sound.isDirectory_of_file (hd : d.Sound) (h : (d.file? p).isSome) (hq : q <+: p)
    (hne : q ≠ p) : d.isDirectory q := by
  obtain ⟨rest, rfl⟩ := hq
  obtain rfl | ⟨rest, name, rfl⟩ := rest.eq_nil_or_concat'
  · exact absurd (List.append_nil q).symm hne
  · have hparent := hd.filed _ h
    rw [← List.append_assoc, List.dropLast_concat] at hparent
    exact hd.isDirectory_above hparent (List.prefix_append q rest)

theorem Sound.unblocked_of_isDirectory (hd : d.Sound) (h : d.isDirectory p) : d.Unblocked p :=
  fun _ hq => hd.file?_of_isDirectory (hd.isDirectory_above h hq)

/-- Nothing is where the directory around it is missing. -/
theorem Sound.nothing_of_no_room (hd : d.Sound) (h : d.isDirectory p.dropLast = false) :
    d.isDirectory p = false ∧ d.file? p = none := by
  rw [← Option.not_isSome_iff_eq_none, ← Bool.not_eq_true]
  refine ⟨fun hp => ?_, fun hp => ?_⟩
  · rw [hd.housed p hp] at h
    cases h
  · rw [hd.filed p hp] at h
    cases h

theorem unblocked_concat_iff (hd : d.Sound) (h : d.isDirectory p) :
    d.Unblocked (p ++ [name]) ↔ d.file? (p ++ [name]) = none := by
  refine ⟨fun hfree => hfree _ List.prefix_rfl, fun hnone q hq => ?_⟩
  obtain rfl | hq := List.prefix_concat_iff.mp hq
  · exact hnone
  · exact hd.unblocked_of_isDirectory h q hq

/-! ## Following names -/

/-- Why it is refused to follow names to a place that is no directory. -/
inductive Refused (d : Disk) (place : Path) : DiskError → Prop
  | missing (h : d.Unblocked place) : Refused d place .missing
  | blocked (h : ¬ d.Unblocked place) : Refused d place .notDirectory

theorem enter_ordinary (hname : Ordinary [name]) :
    d.enter at_ name =
      if d.isDirectory (at_ ++ [name]) then .ok (at_ ++ [name])
      else if (d.file? (at_ ++ [name])).isSome then .error .notDirectory
      else .error .missing := by
  obtain ⟨hdown, hlength, _⟩ := hname name (List.mem_singleton_self name)
  unfold enter
  rw [if_neg (by omega), if_neg (by simpa using hdown), isDirectory_concat]

theorem follow_of_isDirectory (hd : d.Sound) (hnames : names.Ordinary)
    (h : d.isDirectory (at_ ++ names)) : names.foldlM d.enter at_ = .ok (at_ ++ names) := by
  induction names generalizing at_ with
  | nil => rw [List.append_nil]; rfl
  | cons name names ih =>
    rw [show at_ ++ name :: names = at_ ++ [name] ++ names from List.append_cons ..] at h ⊢
    have hstep := hd.isDirectory_above h (List.prefix_append (at_ ++ [name]) names)
    rw [List.foldlM_cons, enter_ordinary (Ordinary.left (q := names) hnames), if_pos hstep]
    exact ih (Ordinary.right (p := [name]) hnames) h

theorem follow_refused (hd : d.Sound) (hat : d.isDirectory at_) (hnames : names.Ordinary)
    (h : d.isDirectory (at_ ++ names) = false) :
    ∃ e, names.foldlM d.enter at_ = .error e ∧ d.Refused (at_ ++ names) e := by
  induction names generalizing at_ with
  | nil =>
    rw [List.append_nil, hat] at h
    cases h
  | cons name names ih =>
    rw [show at_ ++ name :: names = at_ ++ [name] ++ names from List.append_cons ..] at h ⊢
    have hwhole : at_ ++ [name] <+: at_ ++ [name] ++ names := List.prefix_append ..
    rw [List.foldlM_cons, enter_ordinary (Ordinary.left (q := names) hnames)]
    by_cases hstep : d.isDirectory (at_ ++ [name])
    · rw [if_pos hstep]
      exact ih hstep (Ordinary.right (p := [name]) hnames) h
    · rw [if_neg hstep]
      by_cases hfile : (d.file? (at_ ++ [name])).isSome
      · rw [if_pos hfile]
        refine ⟨_, rfl, .blocked fun hfree => ?_⟩
        rw [hfree _ hwhole] at hfile
        cases hfile
      · rw [if_neg hfile]
        rw [Option.not_isSome_iff_eq_none] at hfile
        refine ⟨_, rfl, .missing fun q hq => ?_⟩
        -- Above the missing directory there are directories, below it there is nothing.
        obtain hq' | hq' := List.prefix_or_prefix_of_prefix hq hwhole
        · exact (unblocked_concat_iff hd hat).mpr hfile q hq'
        · rw [← Option.not_isSome_iff_eq_none]
          intro hsome
          by_cases heq : at_ ++ [name] = q
          · rw [← heq, hfile] at hsome
            cases hsome
          · exact hstep (hd.isDirectory_of_file hsome hq' heq)

/-- What is followed leads to a directory. -/
theorem isDirectory_of_follow (hd : d.Sound) (hat : d.isDirectory at_)
    (h : names.foldlM d.enter at_ = .ok place) : d.isDirectory place := by
  induction names generalizing at_ with
  | nil => cases h; exact hat
  | cons name names ih =>
    rw [List.foldlM_cons] at h
    rcases hstep : d.enter at_ name with e | p
    · rw [hstep] at h
      cases h
    · rw [hstep] at h
      refine ih ?_ h
      unfold enter at hstep
      split at hstep
      · cases hstep
      · split at hstep
        · cases hstep
          exact hd.housed at_ hat
        · split at hstep
          · next hdir =>
            cases hstep
            rwa [isDirectory_concat]
          · split at hstep <;> cases hstep

/-- Where there are more directories, a path can be followed as before. -/
theorem follow_mono (hmore : ∀ q, d.isDirectory q → d'.isDirectory q)
    (h : names.foldlM d.enter at_ = .ok place) : names.foldlM d'.enter at_ = .ok place := by
  induction names generalizing at_ with
  | nil => exact h
  | cons name names ih =>
    rw [List.foldlM_cons] at h ⊢
    rcases hstep : d.enter at_ name with e | p
    · rw [hstep] at h
      cases h
    · have hstep' : d'.enter at_ name = .ok p := by
        unfold enter at hstep ⊢
        split at hstep
        · cases hstep
        · next hlength =>
          rw [if_neg hlength]
          split at hstep
          · next hup => rw [if_pos hup, hstep]
          · next hdown =>
            split at hstep
            · next hdir =>
              cases hstep
              rw [← isDirectory_concat] at hdir
              rw [if_neg hdown, if_pos (isDirectory_concat ▸ hmore _ hdir)]
            · split at hstep <;> cases hstep
      rw [hstep']
      rw [hstep] at h
      exact ih h

/-! ## Reaching a place -/

/-- The path leads to the place. Its first names, two dots included, lead to a directory that is
there; the names after them lead down from it, whether they are there or not. -/
def Reaches (d : Disk) (path place : Path) : Prop :=
  ∃ way at_ rest, path = way ++ rest ∧ place = at_ ++ rest ∧ way.foldlM d.enter [] = .ok at_ ∧
    (∀ name ∈ way, '\x00' ∉ name.toList) ∧ rest.Ordinary

theorem reaches_of_ordinary (h : p.Ordinary) (d : Disk) : d.Reaches p p :=
  ⟨[], [], p, rfl, rfl, rfl, fun _ hname => (List.not_mem_nil hname).elim, h⟩

theorem Reaches.append (h : d.Reaches path place) (hnames : names.Ordinary) :
    d.Reaches (path ++ names) (place ++ names) := by
  obtain ⟨way, at_, rest, rfl, rfl, hway, hnull, hrest⟩ := h
  exact ⟨way, at_, rest ++ names, List.append_assoc .., List.append_assoc .., hway, hnull,
    hrest.append hnames⟩

theorem Reaches.mono (h : d.Reaches path place) (hmore : ∀ q, d.isDirectory q → d'.isDirectory q) :
    d'.Reaches path place := by
  obtain ⟨way, at_, rest, rfl, rfl, hway, hnull, hrest⟩ := h
  exact ⟨way, at_, rest, rfl, rfl, follow_mono hmore hway, hnull, hrest⟩

theorem Reaches.follow (hd : d.Sound) (h : d.Reaches path place) (hplace : d.isDirectory place) :
    path.foldlM d.enter [] = .ok place := by
  obtain ⟨way, at_, rest, rfl, rfl, hway, hnull, hrest⟩ := h
  rw [List.foldlM_append, hway]
  exact follow_of_isDirectory hd hrest hplace

theorem Reaches.follow_refused (hd : d.Sound) (h : d.Reaches path place)
    (hplace : d.isDirectory place = false) :
    ∃ e, path.foldlM d.enter [] = .error e ∧ d.Refused place e := by
  obtain ⟨way, at_, rest, rfl, rfl, hway, hnull, hrest⟩ := h
  rw [List.foldlM_append, hway]
  exact Disk.follow_refused hd (isDirectory_of_follow hd (isDirectory_nil d) hway) hrest hplace

theorem Reaches.no_null (h : d.Reaches path place) :
    (path.any fun name => name.toList.contains '\x00') = false := by
  obtain ⟨way, at_, rest, rfl, rfl, hway, hnull, hrest⟩ := h
  rw [List.any_eq_false]
  intro name hname
  rw [List.contains_iff_mem]
  obtain hname | hname := List.mem_append.mp hname
  · exact hnull name hname
  · exact (hrest name hname).2.2

/-- A path leads to a directory that is there, or its last name leads down. -/
theorem Reaches.parent (hd : d.Sound) (h : d.Reaches path place) :
    (path.foldlM d.enter [] = .ok place ∧ d.isDirectory place) ∨
      ∃ before around last, path = before ++ [last] ∧ place = around ++ [last] ∧
        d.Reaches before around ∧ Ordinary [last] := by
  obtain ⟨way, at_, rest, rfl, rfl, hway, hnull, hrest⟩ := h
  obtain rfl | ⟨rest, last, rfl⟩ := rest.eq_nil_or_concat'
  · rw [List.append_nil, List.append_nil]
    exact .inl ⟨hway, isDirectory_of_follow hd (isDirectory_nil d) hway⟩
  · exact .inr ⟨way ++ rest, at_ ++ rest, last, (List.append_assoc ..).symm,
      (List.append_assoc ..).symm, ⟨way, at_, rest, rfl, rfl, hway, hnull, hrest.left⟩, hrest.right⟩

theorem resolve_concat (d : Disk) (before : Path) (last : String) :
    d.resolve (before ++ [last]) = (do
      let at_ ← before.foldlM d.enter []
      if last.utf8ByteSize > 255 then .error .nameTooLong
      else if last == ".." then .ok at_.dropLast
      else .ok (at_ ++ [last])) := by
  unfold resolve
  rw [List.reverse_append]
  simp only [List.reverse_cons, List.reverse_nil, List.nil_append, List.cons_append,
    List.reverse_reverse]

theorem resolve_of_follow (h : path.foldlM d.enter [] = .ok place) : d.resolve path = .ok place := by
  obtain rfl | ⟨before, last, rfl⟩ := path.eq_nil_or_concat'
  · exact h
  · rw [List.foldlM_append] at h
    rw [resolve_concat]
    rcases hbefore : before.foldlM d.enter [] with e | at_
    · rw [hbefore] at h
      cases h
    · rw [hbefore] at h
      have hlast : d.enter at_ last = .ok place := by
        change ([last].foldlM d.enter at_) = .ok place at h
        rw [List.foldlM_cons] at h
        rcases henter : d.enter at_ last with e | p <;> rw [henter] at h
        · cases h
        · exact h
      show (if last.utf8ByteSize > 255 then _ else _ : Except DiskError Path) = _
      unfold enter at hlast
      split at hlast
      · cases hlast
      · split at hlast
        · next hlength hup => rw [if_neg hlength, if_pos hup, hlast]
        · next hlength hup =>
          split at hlast
          · cases hlast
            rw [if_neg hlength, if_neg hup]
          · split at hlast <;> cases hlast

section Operations

variable {α : Type} (run : Path → Except DiskError α)

/-- **An operation** is done at the place that its path leads to, if there is room for it. -/
theorem Reaches.at_of_room (hd : d.Sound) (h : d.Reaches path place)
    (hroom : d.isDirectory place.dropLast) :
    d.at_ path run = match run place with
      | .ok a => .ok a
      | .error e => .error (.disk e path.text) := by
  have hresolve : d.resolve path = .ok place := by
    obtain ⟨hfollow, _⟩ | ⟨before, around, last, rfl, rfl, hbefore, hlast⟩ := h.parent hd
    · exact resolve_of_follow hfollow
    · rw [List.dropLast_concat] at hroom
      obtain ⟨hdown, hlength, _⟩ := hlast last (List.mem_singleton_self last)
      rw [resolve_concat, hbefore.follow hd hroom]
      show (if last.utf8ByteSize > 255 then _ else _ : Except DiskError Path) = _
      rw [if_neg (by omega), if_neg (by simpa using hdown)]
  unfold Disk.at_
  rw [h.no_null, hresolve]
  rfl

theorem Reaches.at_refused (hd : d.Sound) (h : d.Reaches path place)
    (hroom : d.isDirectory place.dropLast = false) :
    ∃ e, d.at_ path run = .error (.disk e path.text) ∧ d.Refused place.dropLast e := by
  obtain ⟨_, hplace⟩ | ⟨before, around, last, rfl, rfl, hbefore, hlast⟩ := h.parent hd
  · rw [hd.housed place hplace] at hroom
    cases hroom
  · rw [List.dropLast_concat] at hroom ⊢
    obtain ⟨e, hfollow, hrefused⟩ := hbefore.follow_refused hd hroom
    refine ⟨e, ?_, hrefused⟩
    unfold Disk.at_
    rw [h.no_null, resolve_concat, hfollow]
    rfl

end Operations

end Disk

end FolderTalk
