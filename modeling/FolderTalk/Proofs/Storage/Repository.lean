import FolderTalk.Proofs.Storage.Changes
import FolderTalk.Storage.Repository

/-!
# The documents of a session on the disk

What a repository does, in terms of the place that the directory of the session is at.

* `Path.Single`, `Filable` : a name that is a single step down, and a key that has a file name;
* `load_eq`, `listed_eq` : what is loaded and listed depends on what is in that directory only;
* `Readied`, `SaveCame` : everything that saving can do;
* `Cleared` : what clearing does, however far it gets.
-/

namespace FolderTalk

namespace Path

/-- The name is a single step down from a directory. -/
structure Single (name : String) : Prop where
  nonempty : name ≠ ""
  noSeparator : '/' ∉ name.toList
  down : name ≠ "." ∧ name ≠ ".."

theorem extend_single {name : String} (hne : name ≠ "") (hslash : '/' ∉ name.toList)
    (hdot : name ≠ ".") (p : Path) : Path.extend p name = p ++ [name] := by
  have hsplit : Path.split name = [name] := by
    unfold Path.split
    rw [List.splitOn_eq_singleton hslash]
    simp [hne, hdot]
  have hrelative : name.startsWith "/" = false := by
    rw [← Bool.not_eq_true, String.startsWith_string_iff]
    exact fun hroot => hslash (hroot.subset (by decide))
  unfold Path.extend
  rw [hrelative, hsplit]
  rfl

theorem Single.ordinary {name : String} (h : Single name) (hname : Holdable name) :
    Ordinary [name] := by
  intro other hother
  rw [List.mem_singleton] at hother
  exact hother ▸ ⟨h.down.2, hname⟩

end Path

namespace Disk

open FolderTalk.Path

variable {d : Disk} {path : Path} {name : String} {α : Type}

/-- Nothing is done at a path with a name that cannot stand on a disk. -/
theorem at_not_holdable (h : ¬ Holdable name) (d : Disk) (path : Path)
    (run : Path → Except DiskError α) : ∃ f, d.at_ (path ++ [name]) run = .error f := by
  unfold Disk.at_
  by_cases hnull : (path ++ [name]).any fun name => name.toList.contains '\x00'
  · exact ⟨_, if_pos hnull⟩
  · have hlong : name.utf8ByteSize > 255 := by
      by_contra hshort
      refine h ⟨by omega, fun hmem => hnull ?_⟩
      rw [List.any_eq_true]
      exact ⟨name, List.mem_append_right path (List.mem_singleton_self name),
        List.contains_iff_mem.mpr hmem⟩
    have hrefused : ∃ e, d.resolve (path ++ [name]) = .error e := by
      simp only [resolve_concat, if_pos hlong]
      cases path.foldlM d.enter [] <;> exact ⟨_, rfl⟩
    obtain ⟨e, he⟩ := hrefused
    rw [if_neg hnull, he]
    exact ⟨_, rfl⟩

end Disk

namespace Repository

open FolderTalk.Path FolderTalk.Disk

variable {r : Repository} {d d' d₁ : Disk} {session key other : String} {dir : Path} {v : Value}

/-- The key has a file name of its own. -/
def Filable (key : String) : Prop := '/' ∉ key.toList ∧ Holdable (key ++ extension)

instance (key : String) : Decidable (Filable key) := inferInstanceAs (Decidable (_ ∧ _))

theorem length_fileName (key : String) :
    (key ++ extension).toList.length = key.toList.length + 5 := by
  rw [String.toList_append, List.length_append]
  rfl

theorem fileName_ne {name : String} (h : name.toList.length < 5) (key : String) :
    key ++ extension ≠ name := by
  rintro rfl
  have := length_fileName key
  omega

theorem not_mem_fileName (h : '/' ∉ key.toList) : '/' ∉ (key ++ extension).toList := by
  rw [String.toList_append, List.mem_append, not_or]
  exact ⟨h, by decide⟩

theorem endsWith_iff (s : String) : s.endsWith extension ↔ extension.toList <:+ s.toList := by
  show s.toSlice.endsWith extension = true ↔ _
  rw [String.Slice.endsWith_string_iff, String.copy_toSlice]

theorem endsWith_fileName (key : String) : (key ++ extension).endsWith extension := by
  rw [endsWith_iff, String.toList_append]
  exact List.suffix_append ..

theorem not_endsWith_logName : ¬ logName.endsWith extension := by
  rw [endsWith_iff]
  decide

theorem fileName_ne_log (key : String) : key ++ extension ≠ logName := fun h =>
  not_endsWith_logName (h ▸ endsWith_fileName key)

theorem Filable.ordinary (h : Filable key) : Ordinary [key ++ extension] := by
  intro name hname
  rw [List.mem_singleton] at hname
  exact hname ▸ ⟨fileName_ne (by decide) key, h.2⟩

theorem keyPath_eq (r : Repository) (session : String) (h : '/' ∉ key.toList) :
    r.keyPath session key = r.sessionPath session ++ [key ++ extension] :=
  Path.extend_single (fileName_ne (by decide) key) (not_mem_fileName h)
    (fileName_ne (by decide) key) _

theorem sessionPath_eq (r : Repository) (h : Single session) :
    r.sessionPath session = r.base ++ [session] :=
  Path.extend_single h.nonempty h.noSeparator h.down.1 _

theorem reaches_key (h : d.Reaches (r.sessionPath session) dir) (hkey : Filable key) :
    d.Reaches (r.keyPath session key) (dir ++ [key ++ extension]) := by
  rw [keyPath_eq r session hkey.1]
  exact h.append hkey.ordinary

/-! ## Loading and listing -/

/-- **What is loaded** is what the document of the key says. -/
theorem load_eq (hd : d.Sound) (h : d.Reaches (r.sessionPath session) dir) (hkey : Filable key) :
    r.load d session key = match d.file? (dir ++ [key ++ extension]) with
      | some doc => match doc.value with
        | .ok v => .ok v
        | .error .invalid => .error (.invalid key)
        | .error (.fault f) => .error (.fault f)
      | none =>
        if d.isDirectory (dir ++ [key ++ extension]) then
          .error (.fault (.disk .isDirectory (r.keyPath session key).text))
        else .error (.missing key (r.keyPath session key)) := by
  have hreach := reaches_key h hkey
  unfold load
  simp only [hreach.holds hd]
  cases hfile : d.file? (dir ++ [key ++ extension]) with
  | some doc =>
    rcases hvalue : doc.value with (_ | f) | v <;>
      simp only [hreach.content_of_file hd hfile, Option.isSome_some, Bool.or_true, hvalue]
  | none =>
    cases hdir : d.isDirectory (dir ++ [key ++ extension]) with
    | true => simp only [hreach.content_of_directory hd hdir, Option.isSome_none, Bool.or_false]; rfl
    | false => simp only [Option.isSome_none, Bool.or_false]; rfl

/-- No document is found under a key without a file name. -/
theorem holds_of_not_holdable (r : Repository) (d : Disk) (session : String)
    (hslash : '/' ∉ key.toList) (hname : ¬ Holdable (key ++ extension)) :
    d.holds (r.keyPath session key) = .ok false ∨
      ∃ f, d.holds (r.keyPath session key) = .error f := by
  rw [keyPath_eq r session hslash]
  unfold Disk.holds
  obtain ⟨f, hat⟩ := at_not_holdable hname d (r.sessionPath session)
    fun p => .ok (d.isDirectory p || (d.file? p).isSome)
  rw [hat]
  split
  · cases ‹_›
  · exact .inr ⟨_, rfl⟩
  · exact .inl rfl

/-- What is loaded is the same on disks that agree on the document. -/
theorem load_congr (hd : d.Sound) (hd' : d'.Sound) (h : d.Reaches (r.sessionPath session) dir)
    (h' : d'.Reaches (r.sessionPath session) dir) (hkey : Filable key)
    (hfile : d'.file? (dir ++ [key ++ extension]) = d.file? (dir ++ [key ++ extension]))
    (hdir : d'.isDirectory (dir ++ [key ++ extension]) =
      d.isDirectory (dir ++ [key ++ extension])) :
    r.load d' session key = r.load d session key := by
  rw [load_eq hd h hkey, load_eq hd' h' hkey, hfile, hdir]

/-- **What is listed** are the names of documents in the directory. -/
theorem listed_eq (hd : d.Sound) (h : d.Reaches (r.sessionPath session) dir) :
    r.listed d session = .ok
      ((((children dir (d.directories ++ d.files.map (·.1))).filter
        fun name => name.endsWith extension).map stem).mergeSort fun a b => a ≤ b) := by
  unfold listed
  rw [h.holds hd]
  by_cases hthere : d.isDirectory dir || (d.file? dir).isSome
  · have hroom : d.isDirectory dir.dropLast :=
      (Bool.or_eq_true_iff.mp hthere).elim (hd.housed dir) (hd.filed dir)
    rw [hthere]
    unfold keys names
    rw [h.at_of_room _ hd hroom]
    rfl
  · rw [Bool.not_eq_true] at hthere
    rw [hthere, hd.children_eq_nil (Bool.or_eq_false_iff.mp hthere).1]
    simp

/-! ## Saving -/

/-- The directory of a session and its log have been made, as far as they were missing. -/
structure Readied (d : Disk) (dir : Path) (d' : Disk) : Prop where
  sound : d'.Sound
  isDirectory_iff : ∀ q, d'.isDirectory q ↔ d.isDirectory q ∨ q <+: dir
  files : ∀ q, q ≠ dir ++ [logName] → d'.file? q = d.file? q
  confined : Confined dir d d'

theorem Readied.isDirectory_concat (h : Readied d dir d') (name : String) :
    d'.isDirectory (dir ++ [name]) = d.isDirectory (dir ++ [name]) := by
  rw [Bool.eq_iff_iff, h.isDirectory_iff, or_iff_left (not_prefix_self dir name)]

/-- The directory of a session can be made ready unless a file is in its place or above it. -/
theorem makeReady_came (hd : d.Sound) (h : d.Reaches (r.sessionPath session) dir) :
    (d.Unblocked dir ∧ ∃ d', r.makeReady d session = (d', none) ∧ Readied d dir d') ∨
      (¬ d.Unblocked dir ∧ ∃ f, r.makeReady d session = (d, some f)) := by
  unfold makeReady
  rcases layDirectories_came hd h with ⟨hfree, d₁, hlay, hlaid⟩ | ⟨hblocked, f, hlay⟩
  · have hlog : Ordinary [logName] := by decide
    have hsound := hlaid.sound hd hfree
    have hroom : d₁.isDirectory (dir ++ [logName]).dropLast := by
      rw [List.dropLast_concat]
      exact hlaid.isDirectory_place
    have htouch := ((h.mono hlaid.mono).append hlog).touch hsound hroom
    simp only [hlay, htouch]
    by_cases hthere : d₁.isDirectory (dir ++ [logName]) || (d₁.file? (dir ++ [logName])).isSome
    · rw [if_pos hthere]
      exact .inl ⟨hfree, d₁, rfl, hsound, fun q => hlaid.isDirectory_iff,
        fun q _ => hlaid.file? q, .of_laid hlaid⟩
    · rw [if_neg hthere]
      rw [Bool.not_eq_true, Bool.or_eq_false_iff] at hthere
      refine .inl ⟨hfree, _, rfl, hsound.putFile hroom hthere.1 _, fun q => ?_, fun q hq => ?_,
        (Confined.of_laid hlaid).trans (.putFile List.dropLast_concat _)⟩
      · rw [isDirectory_putFile, hlaid.isDirectory_iff]
      · rw [file?_putFile_other hq, hlaid.file?]
  · simp only [hlay]
    exact .inr ⟨hblocked, f, rfl⟩

/-- Everything that saving a value can come to. -/
inductive SaveCame (d : Disk) (dir : Path) (key : String) (v : Value) : Disk × Option Fault → Prop
  | blocked (f : Fault) (h : ¬ d.Unblocked dir) : SaveCame d dir key v (d, some f)
  | unwritten (d' : Disk) (f : Fault) (hready : Readied d dir d')
      (h : ¬ (Holdable (key ++ extension) ∧ d.isDirectory (dir ++ [key ++ extension]) = false ∧
        ∃ doc, Document.ofValue v = .ok doc)) : SaveCame d dir key v (d', some f)
  | written (d' : Disk) (doc : Document) (hfree : d.Unblocked dir) (hready : Readied d dir d')
      (hname : Holdable (key ++ extension))
      (hplace : d.isDirectory (dir ++ [key ++ extension]) = false)
      (hdoc : Document.ofValue v = .ok doc) :
      SaveCame d dir key v (d'.putFile (dir ++ [key ++ extension]) doc, none)

theorem save_came (hd : d.Sound) (h : d.Reaches (r.sessionPath session) dir)
    (hkey : '/' ∉ key.toList) (v : Value) : SaveCame d dir key v (r.save d session key v) := by
  unfold save
  rcases makeReady_came hd h with ⟨hfree, d₁, hmake, hready⟩ | ⟨hblocked, f, hmake⟩
  · simp only [hmake]
    cases hdoc : Document.ofValue v with
    | error f =>
      refine .unwritten d₁ f hready fun hall => ?_
      obtain ⟨_, _, doc, hok⟩ := hall
      rw [hdoc] at hok
      cases hok
    | ok doc =>
      dsimp only
      by_cases hname : Holdable (key ++ extension)
      · have hreach := reaches_key (h.mono fun q hq => (hready.isDirectory_iff q).mpr (.inl hq))
          ⟨hkey, hname⟩
        have hroom : d₁.isDirectory (dir ++ [key ++ extension]).dropLast := by
          rw [List.dropLast_concat]
          exact (hready.isDirectory_iff dir).mpr (.inr List.prefix_rfl)
        rw [hreach.writeContent hready.sound hroom, hready.isDirectory_concat]
        by_cases hplace : d.isDirectory (dir ++ [key ++ extension])
        · rw [if_pos hplace]
          refine .unwritten d₁ _ hready fun hall => ?_
          rw [hall.2.1] at hplace
          cases hplace
        · rw [if_neg hplace]
          exact .written d₁ doc hfree hready hname (Bool.eq_false_iff.mpr hplace) hdoc
      · obtain ⟨f, hwrite⟩ : ∃ f, d₁.writeContent (r.keyPath session key) doc = .error f := by
          rw [keyPath_eq r session hkey]
          exact at_not_holdable hname d₁ _ _
        rw [hwrite]
        exact .unwritten d₁ f hready fun hall => hname hall.1
  · simp only [hmake]
    exact .blocked f hblocked

theorem SaveCame.sound {result : Disk × Option Fault} (h : SaveCame d dir key v result)
    (hd : d.Sound) : result.1.Sound := by
  cases h with
  | blocked f _ => exact hd
  | unwritten d' f hready _ => exact hready.sound
  | written d' doc _ hready _ hplace _ =>
    refine hready.sound.putFile ?_ ((hready.isDirectory_concat _).trans hplace) doc
    rw [List.dropLast_concat]
    exact (hready.isDirectory_iff dir).mpr (.inr List.prefix_rfl)

theorem SaveCame.confined {result : Disk × Option Fault} (h : SaveCame d dir key v result) :
    Confined dir d result.1 := by
  cases h with
  | blocked f _ => exact .refl dir d
  | unwritten d' f hready _ => exact hready.confined
  | written d' doc _ hready _ _ _ =>
    exact hready.confined.trans (.putFile List.dropLast_concat doc)

/-- The directories of a session in which something has been saved are there. -/
theorem SaveCame.isDirectory_of_saved {result : Disk × Option Fault}
    (h : SaveCame d dir key v result) (hsaved : result.2 = none) (q : Path) :
    result.1.isDirectory q ↔ d.isDirectory q ∨ q <+: dir := by
  cases h with
  | blocked f _ => cases hsaved
  | unwritten d' f _ _ => cases hsaved
  | written d' doc _ hready _ _ _ =>
    rw [isDirectory_putFile]
    exact hready.isDirectory_iff q

/-- Files of the keys may have been removed, and nothing else has changed. -/
structure Cleared (d : Disk) (dir : Path) (keys : List String) (d' : Disk) : Prop where
  sound : d'.Sound
  isDirectory : ∀ q, d'.isDirectory q = d.isDirectory q
  files : ∀ q, (∀ key ∈ keys, q ≠ dir ++ [key ++ extension]) → d'.file? q = d.file? q
  removed : ∀ q, d.file? q = none → d'.file? q = none
  confined : Confined dir d d'

theorem Cleared.refl (hd : d.Sound) (keys : List String) : Cleared d dir keys d :=
  ⟨hd, fun _ => rfl, fun _ _ => rfl, fun _ hq => hq, .refl dir d⟩

theorem Cleared.mono {keys keys' : List String} (h : Cleared d dir keys d')
    (hkeys : keys ⊆ keys') : Cleared d dir keys' d' :=
  ⟨h.sound, h.isDirectory, fun q hq => h.files q fun key hkey => hq key (hkeys hkey), h.removed,
    h.confined⟩

theorem Cleared.dropFile {keys : List String}
    (h : Cleared (d.dropFile (dir ++ [key ++ extension])) dir keys d') :
    Cleared d dir (key :: keys) d' := by
  refine ⟨h.sound, fun q => (h.isDirectory q).trans (isDirectory_dropFile d _ q), fun q hq => ?_,
    fun q hq => h.removed q ?_, (Confined.dropFile List.dropLast_concat).trans h.confined⟩
  · obtain ⟨hkey, hkeys⟩ := List.forall_mem_cons.mp hq
    rw [h.files q hkeys, file?_dropFile_other hkey]
  · by_cases hqp : q = dir ++ [key ++ extension]
    · rw [hqp, file?_dropFile_self]
    · rw [file?_dropFile_other hqp, hq]

/-- What becomes of the first of the keys. -/
theorem clear_cons (hd : d.Sound) (h : d.Reaches (r.sessionPath session) dir) (hkey : Filable key)
    (keys : List String) :
    r.clear session d (key :: keys) =
      if d.isDirectory (dir ++ [key ++ extension]) then
        (d, some (.disk .isDirectory (r.keyPath session key).text))
      else if (d.file? (dir ++ [key ++ extension])).isSome then
        r.clear session (d.dropFile (dir ++ [key ++ extension])) keys
      else r.clear session d keys := by
  have hreach := reaches_key h hkey
  rw [clear]
  simp only [hreach.holds hd]
  by_cases hdir : d.isDirectory (dir ++ [key ++ extension])
  · rw [if_pos hdir, hreach.discard hd (hd.housed _ hdir), hd.file?_of_isDirectory hdir, hdir]
    rfl
  · rw [if_neg hdir]
    rw [Bool.not_eq_true] at hdir
    by_cases hfile : (d.file? (dir ++ [key ++ extension])).isSome
    · rw [if_pos hfile, hreach.discard hd (hd.filed _ hfile), if_pos hfile, hdir, hfile]
      rfl
    · rw [if_neg hfile]
      rw [Bool.not_eq_true] at hfile
      rw [hdir, hfile]
      rfl

/-- A key without a file name is passed over or ends the clearing. -/
theorem clear_cons_of_not_holdable (r : Repository) (d : Disk) (session : String)
    (hslash : '/' ∉ key.toList) (hname : ¬ Holdable (key ++ extension)) (keys : List String) :
    (∃ f, r.clear session d (key :: keys) = (d, some f)) ∨
      r.clear session d (key :: keys) = r.clear session d keys := by
  have hholds := holds_of_not_holdable r d session hslash hname
  rw [clear]
  rcases hholds with hno | ⟨f, hfault⟩
  · simp only [hno]
    exact .inr trivial
  · simp only [hfault]
    exact .inl ⟨f, rfl⟩

/-- **Clearing** removes files of the keys and changes nothing else, wherever it ends. -/
theorem clear_cleared {keys : List String} (hd : d.Sound)
    (h : d.Reaches (r.sessionPath session) dir) (hkeys : ∀ key ∈ keys, '/' ∉ key.toList) :
    Cleared d dir keys (r.clear session d keys).1 := by
  induction keys generalizing d with
  | nil => exact .refl hd []
  | cons key keys ih =>
    obtain ⟨hslash, hkeys⟩ := List.forall_mem_cons.mp hkeys
    have hpassed := (ih hd h hkeys).mono (List.subset_cons_self key keys)
    by_cases hname : Holdable (key ++ extension)
    · rw [clear_cons hd h ⟨hslash, hname⟩]
      split
      · exact .refl hd _
      · split
        · exact .dropFile (ih (hd.dropFile _) (h.mono fun _ hq => hq) hkeys)
        · exact hpassed
    · rcases clear_cons_of_not_holdable r d session hslash hname keys with
        ⟨f, hend⟩ | hpass
      · rw [hend]
        exact .refl hd _
      · rw [hpass]
        exact hpassed

end Repository

end FolderTalk
