import FolderTalk.Proofs.Storage.RoundTrip

/-!
# Sessions on the same disk

A session is kept in the directory that its name leads to, and names may lead to the same directory or
to directories inside one another.

* `Access`, `accessAll` : saves and clearings under one session;
* `accessAll_confined` : they change nothing outside the directory of the session but the directories
  on the way to it;
* `Entangled` : two sessions have the same directory, or that of one lies below a name in that of the
  other that looks like a document's;
* `isolated_iff` : a session is touched by what is done under another one exactly if they are entangled.
-/

namespace FolderTalk.Repository

open FolderTalk.Path FolderTalk.Disk

variable {r : Repository} {d d' : Disk} {s t key : String}

/-- What can be done under a session. -/
inductive Access where
  | save (key : String) (v : Value)
  | clear (keys : List String)

/-- The keys are names without separators. -/
def Access.Flat : Access → Prop
  | save key _ => '/' ∉ key.toList
  | clear keys => ∀ key ∈ keys, '/' ∉ key.toList

/-- The disk after a save or a clearing, however it ended. -/
def access (r : Repository) (session : String) (d : Disk) : Access → Disk
  | .save key v => (r.save d session key v).1
  | .clear keys => (r.clear session d keys).1

/-- The disk after saves and clearings, one after another. -/
def accessAll (r : Repository) (session : String) (accesses : List Access) (d : Disk) : Disk :=
  accesses.foldl (r.access session) d

/-- The session of the first name is kept in the directory of the other one, or below a name in it
that looks like a document's. -/
def Entangled (r : Repository) (s t : String) : Prop :=
  r.sessionPath s = r.sessionPath t ∨
    ∃ name rest, r.sessionPath s = r.sessionPath t ++ name :: rest ∧ name.endsWith extension

/-! ## What is done under a session -/

theorem access_confined (hd : d.Sound) (hs : (r.sessionPath s).Ordinary) {a : Access} (ha : a.Flat) :
    (r.access s d a).Sound ∧ Confined (r.sessionPath s) d (r.access s d a) := by
  have hreach := reaches_of_ordinary hs d
  cases a with
  | save key v =>
    have hcame := save_came hd hreach ha v
    exact ⟨hcame.sound hd, hcame.confined⟩
  | clear keys =>
    have hcleared := clear_cleared hd hreach ha
    exact ⟨hcleared.sound, hcleared.confined⟩

theorem accessAll_confined (hd : d.Sound) (hs : (r.sessionPath s).Ordinary) {accesses : List Access}
    (hflat : ∀ a ∈ accesses, a.Flat) :
    (r.accessAll s accesses d).Sound ∧
      Confined (r.sessionPath s) d (r.accessAll s accesses d) := by
  induction accesses generalizing d with
  | nil => exact ⟨hd, .refl _ d⟩
  | cons a accesses ih =>
    obtain ⟨ha, hflat⟩ := List.forall_mem_cons.mp hflat
    obtain ⟨hsound, hconfined⟩ := access_confined hd hs ha
    obtain ⟨hsound', hconfined'⟩ := ih hsound hflat
    exact ⟨hsound', hconfined.trans hconfined'⟩

/-! ## What another session sees of it -/

theorem not_prefix_of_not_entangled (h : ¬ r.Entangled s t) {name : String}
    (hname : name.endsWith extension) : ¬ r.sessionPath t ++ [name] <+: r.sessionPath s := by
  rintro ⟨rest, hrest⟩
  refine h (.inr ⟨name, rest, ?_, hname⟩)
  rw [← hrest, List.append_assoc]
  rfl

theorem load_confined (hd : d.Sound) (hd' : d'.Sound) (ht : (r.sessionPath t).Ordinary)
    (hc : Confined (r.sessionPath s) d d') (h : ¬ r.Entangled s t) (hkey : Filable key) :
    r.load d' t key = r.load d t key := by
  refine load_congr hd hd' (reaches_of_ordinary ht d) (reaches_of_ordinary ht d') hkey ?_ ?_
  · refine hc.files _ ?_
    rw [List.dropLast_concat]
    exact fun heq => h (.inl heq.symm)
  · exact hc.isDirectory_iff (not_prefix_of_not_entangled h (endsWith_fileName key))

theorem listed_confined (hd : d.Sound) (hd' : d'.Sound) (ht : (r.sessionPath t).Ordinary)
    (hc : Confined (r.sessionPath s) d d') (h : ¬ r.Entangled s t) :
    r.listed d' t = r.listed d t := by
  obtain ⟨added, hdirs, hadded⟩ := hc.directories
  -- The directories that have been made do not look like documents.
  have hnone : (children (r.sessionPath t) added).filter
      (fun name => name.endsWith extension) = [] := by
    refine List.filter_eq_nil_iff.mpr fun name hname hends => ?_
    exact not_prefix_of_not_entangled h hends (hadded _ (mem_children_iff.mp hname))
  rw [listed_eq hd (reaches_of_ordinary ht d), listed_eq hd' (reaches_of_ordinary ht d'), hdirs,
    children_append, children_append, children_append, hc.names _ fun heq => h (.inl heq.symm),
    List.filter_append, List.filter_append, List.filter_append, hnone, List.append_nil]

/-! ## Entangled sessions -/

/-- On an empty disk a value is saved under every session. -/
theorem save_empty (hs : (r.sessionPath s).Ordinary) : (r.save {} s "k" .null).2 = none := by
  have hd : ({} : Disk).Sound := by decide
  have hkey : '/' ∉ "k".toList := by decide
  have hcame := save_came hd (reaches_of_ordinary hs {}) hkey .null
  refine (hcame.eq_none_iff (by decide) trivial (by decide)).mpr ⟨fun _ _ => rfl, ?_, trivial⟩
  rw [isDirectory_concat]
  rfl

/-- What is saved under a session is there under any other one in the same directory. -/
theorem load_save_same (hs : (r.sessionPath s).Ordinary) (ht : (r.sessionPath t).Ordinary)
    (hsame : r.sessionPath s = r.sessionPath t) :
    r.load (r.save {} s "k" .null).1 t "k" ≠ r.load {} t "k" := by
  have hd : ({} : Disk).Sound := by decide
  have hkey : Filable "k" := by decide
  have hload := load_saved hd (reaches_of_ordinary hs {}) hkey (v := .null) trivial (by decide)
    (save_empty hs)
  have hthere : r.load (r.save {} s "k" .null).1 t "k" = .ok .null := by
    rw [← hload]
    unfold load keyPath
    rw [hsame]
  rw [hthere, load_eq hd (reaches_of_ordinary ht {}) hkey, isDirectory_concat]
  exact nofun

/-- The directories that a session lies in are made, and one with the name of a document is listed. -/
theorem listed_save_below {name : String} {rest : Path} (hs : (r.sessionPath s).Ordinary)
    (ht : (r.sessionPath t).Ordinary)
    (hbelow : r.sessionPath s = r.sessionPath t ++ name :: rest) (hname : name.endsWith extension) :
    r.listed (r.save {} s "k" .null).1 t ≠ r.listed {} t := by
  have hd : ({} : Disk).Sound := by decide
  have hkey : Filable "k" := by decide
  have hcame := save_came hd (reaches_of_ordinary hs {}) hkey.1 .null
  have hsound := hcame.sound hd
  rw [listed_eq hd (reaches_of_ordinary ht {}), listed_eq hsound (reaches_of_ordinary ht _)]
  have hmade : r.sessionPath t ++ [name] ∈ (r.save {} s "k" .null).1.directories := by
    have habove : r.sessionPath t ++ [name] <+: r.sessionPath s := by
      rw [hbelow]
      exact ⟨rest, by simp⟩
    have hdir := (hcame.isDirectory_of_saved (save_empty hs) _).mpr (.inr habove)
    exact (Disk.isDirectory_iff.mp hdir).resolve_left (by simp)
  have hlisted : name ∈ (children (r.sessionPath t) ((r.save {} s "k" .null).1.directories ++
      (r.save {} s "k" .null).1.files.map (·.1))).filter fun name => name.endsWith extension :=
    List.mem_filter.mpr ⟨mem_children_iff.mpr (List.mem_append_left _ hmade), hname⟩
  intro heq
  have hempty := Except.ok.inj heq
  rw [show (children (r.sessionPath t)
    (({} : Disk).directories ++ ({} : Disk).files.map (·.1))) = [] from rfl] at hempty
  have hlength := congrArg List.length hempty
  rw [List.length_mergeSort, List.length_map] at hlength
  have hpos := List.length_pos_of_mem hlisted
  rw [hlength] at hpos
  simp at hpos

/-- Entangled sessions are seen from one another. -/
theorem not_isolated (hs : (r.sessionPath s).Ordinary) (ht : (r.sessionPath t).Ordinary)
    (h : r.Entangled s t) :
    r.load (r.save {} s "k" .null).1 t "k" ≠ r.load {} t "k" ∨
      r.listed (r.save {} s "k" .null).1 t ≠ r.listed {} t := by
  obtain hsame | ⟨name, rest, hbelow, hname⟩ := h
  · exact .inl (load_save_same hs ht hsame)
  · exact .inr (listed_save_below hs ht hbelow hname)

/-- **Sessions are isolated** exactly if they are not entangled. Take two names whose directories can
stand on a disk. Whatever tree of directories and files there is and whatever is saved and cleared
under the first name, keys load as before under the second one and the same keys are listed, if and
only if the directory of the first is not that of the second and does not lie below a name in it that
looks like a document's. Different names that are single steps down are not entangled. -/
theorem isolated_iff (hs : (r.sessionPath s).Ordinary) (ht : (r.sessionPath t).Ordinary) :
    ((∀ d : Disk, d.Sound → ∀ accesses : List Access, (∀ a ∈ accesses, a.Flat) →
        (∀ key, Filable key →
          r.load (r.accessAll s accesses d) t key = r.load d t key) ∧
        r.listed (r.accessAll s accesses d) t = r.listed d t) ↔ ¬ r.Entangled s t) ∧
    (Single s → Single t → s ≠ t → ¬ r.Entangled s t) := by
  refine ⟨⟨fun hall hentangled => ?_, fun h d hd accesses hflat => ?_⟩, fun hone hother hne => ?_⟩
  · obtain ⟨hload, hlisted⟩ := hall {} (by decide) [.save "k" .null] (by
      simp only [List.mem_singleton, forall_eq]
      exact (by decide : '/' ∉ "k".toList))
    obtain hdiffers | hdiffers := not_isolated hs ht hentangled
    · exact hdiffers (hload "k" (by decide))
    · exact hdiffers hlisted
  · obtain ⟨hsound, hconfined⟩ := accessAll_confined hd hs hflat
    exact ⟨fun key hkey => load_confined hd hsound ht hconfined h hkey,
      listed_confined hd hsound ht hconfined h⟩
  · rintro (hsame | ⟨name, rest, hbelow, _⟩)
    · rw [sessionPath_eq r hone, sessionPath_eq r hother] at hsame
      exact hne (by simpa using hsame)
    · have hlength := congrArg List.length hbelow
      rw [sessionPath_eq r hone, sessionPath_eq r hother] at hlength
      simp at hlength

/-- A session inside the directory of another one, under a name that does not look like a
document's. -/
theorem isolated_iff_inside :
    let r : Repository := ⟨["sessions"]⟩
    let d : Disk :=
      { directories := [["sessions"], ["sessions", "one"]]
        files := [(["sessions", "one", "k.json"], .text "1")] }
    let accesses : List Access := [.save "k" (.int 2), .clear ["k", "files"], .save "j" .null]
    let d' := r.accessAll "one/notes" accesses d
    (r.sessionPath "one/notes").Ordinary ∧ (r.sessionPath "one").Ordinary ∧ d.Sound ∧
      r.load d' "one" "k" = r.load d "one" "k" ∧ (r.load d "one" "k").isOk ∧
      r.listed d' "one" = r.listed d "one" ∧ (r.listed d "one").toOption = some ["k"] ∧
      (r.listed d' "one/notes").toOption = some ["j"] := by
  intro r d accesses d'
  have hs : (r.sessionPath "one/notes").Ordinary := by decide +kernel
  have ht : (r.sessionPath "one").Ordinary := by decide +kernel
  have hd : d.Sound := by decide
  have hone : r.sessionPath "one" = ["sessions", "one"] := by decide +kernel
  have hnotes : r.sessionPath "one/notes" = ["sessions", "one"] ++ ["notes"] := by decide +kernel
  have hapart : ¬ r.Entangled "one/notes" "one" := by
    rintro (hsame | ⟨name, rest, hbelow, hname⟩)
    · rw [hone, hnotes] at hsame
      cases hsame
    · rw [hone, hnotes] at hbelow
      obtain ⟨rfl, -⟩ := List.cons.inj (List.append_cancel_left hbelow)
      rw [endsWith_iff] at hname
      revert hname
      decide
  have hflat : ∀ a ∈ accesses, a.Flat := by
    simp only [accesses, List.forall_mem_cons, List.not_mem_nil, false_imp_iff, implies_true,
      and_true, Access.Flat]
    decide
  obtain ⟨hload, hlisted⟩ := (isolated_iff hs ht).1.mpr hapart d hd accesses hflat
  exact ⟨hs, ht, hd, hload "k" (by decide), by decide +kernel, hlisted, by decide +kernel,
    by decide +kernel⟩

/-- A closing slash makes another name that leads to the same directory. -/
theorem isolated_closing_slash :
    let r : Repository := ⟨["sessions"]⟩
    let d := (r.save { directories := [["sessions"]] } "one" "k" (.int 1)).1
    "one/" ≠ "one" ∧ d.Sound ∧ r.load d "one" "k" = .ok (.int 1) ∧
      r.load (r.access "one/" d (.save "k" (.int 2))) "one" "k" = .ok (.int 2) := by
  intro r d
  have hd₀ : ({ directories := [["sessions"]] } : Disk).Sound := by decide
  have hpath : r.sessionPath "one/" = r.sessionPath "one" := by decide +kernel
  have hone : (r.sessionPath "one").Ordinary := by decide +kernel
  have hkey : Filable "k" := by decide
  have hd : d.Sound := (save_came hd₀ (reaches_of_ordinary hone _) hkey.1 _).sound hd₀
  refine ⟨by decide, hd, ?_, ?_⟩
  · exact load_saved hd₀ (reaches_of_ordinary hone _) hkey (v := .int 1) trivial (by decide)
      (by decide +kernel)
  · have hload : r.load (r.save d "one/" "k" (.int 2)).1 "one/" "k" = .ok (.int 2) :=
      load_saved hd (reaches_of_ordinary (hpath ▸ hone) _) hkey trivial (by decide)
        (by decide +kernel)
    rw [← hload]
    unfold load keyPath
    rw [hpath]
    rfl

end FolderTalk.Repository
