import FolderTalk.Engine.Execute
import FolderTalk.Proofs.Json.Writing
import Mathlib

/-!
# The least free stamp

A new identifier is a base with a stamp behind it, and the stamps are tried one after another. What
ends this is an identifier that no folder has, or a stamp with too many digits for a text. It comes to
one of the two, because different stamps have different texts and there are only so many folders.

* `Search` : the search with nothing to bound it, the number of stamps that it passes over and what it
  comes to. It cannot come to two different ends (`Search.unique`);
* `exists_leastFree` : from every stamp on there is a least one that is free, no further away than
  there are taken identifiers;
* `Search.firstFreeId?_eq` : looking past as many taken identifiers as the search does is enough;
* `uniqueId?_leastFree` : a new identifier has the least free stamp from the clock reading on, if the
  stamps up to it have texts, and otherwise there is none.
-/

namespace FolderTalk

/-- Whole numbers between two that have texts have texts. -/
theorem Numeral.Fits.between {a b n : Int} (ha : Numeral.Fits a) (hb : Numeral.Fits b) (han : a ≤ n)
    (hnb : n ≤ b) : Numeral.Fits n := by
  unfold Numeral.Fits at *
  generalize Nat.pow 10 Numeral.maxDigits = limit at *
  omega

namespace Engine

variable {taken : List String} {base : String} {stamp : Int}

theorem stampedId_injective (base : String) : Function.Injective (stampedId base) := by
  intro m n h
  unfold stampedId at h
  exact Int.repr_injective (String.append_right_inj _ |>.mp h)

theorem stampedId?_of_fits (h : Numeral.Fits stamp) :
    stampedId? base stamp = some (stampedId base stamp) := if_pos h

theorem stampedId?_of_not_fits (h : ¬ Numeral.Fits stamp) : stampedId? base stamp = none := if_neg h

/-! ## A search without bounds -/

/-- The search for an identifier from a stamp on: how many stamps it passes over and what it comes to.
It goes on while the identifier is taken and breaks off at a stamp without a text. -/
inductive Search (taken : List String) (base : String) : Int → Nat → Option String → Prop
  | free {stamp : Int} (hfits : Numeral.Fits stamp) (hfree : stampedId base stamp ∉ taken) :
      Search taken base stamp 0 (some (stampedId base stamp))
  | wordless {stamp : Int} (hfits : ¬ Numeral.Fits stamp) : Search taken base stamp 0 none
  | bump {stamp : Int} {bumps : Nat} {result : Option String} (hfits : Numeral.Fits stamp)
      (htaken : stampedId base stamp ∈ taken) (hrest : Search taken base (stamp + 1) bumps result) :
      Search taken base stamp (bumps + 1) result

/-- A search does not come to two different ends. -/
theorem Search.unique {m n : Nat} {r r' : Option String} (h : Search taken base stamp m r)
    (h' : Search taken base stamp n r') : n = m ∧ r' = r := by
  induction h generalizing n r' with
  | free hfits hfree =>
    cases h' with
    | free => exact ⟨rfl, rfl⟩
    | wordless hno => exact absurd hfits hno
    | bump _ htaken _ => exact absurd htaken hfree
  | wordless hno =>
    cases h' with
    | wordless => exact ⟨rfl, rfl⟩
    | free hfits _ | bump hfits _ _ => exact absurd hfits hno
  | bump hfits htaken _ ih =>
    cases h' with
    | free _ hfree => exact absurd htaken hfree
    | wordless hno => exact absurd hfits hno
    | bump _ _ hrest =>
      obtain ⟨rfl, rfl⟩ := ih hrest
      exact ⟨rfl, rfl⟩

/-- A search goes past stamps that are taken and comes to what a search from behind them comes to. -/
theorem Search.past {j n : Nat} {r : Option String}
    (hpast : ∀ i < j, Numeral.Fits (stamp + i) ∧ stampedId base (stamp + i) ∈ taken)
    (h : Search taken base (stamp + j) n r) : Search taken base stamp (n + j) r := by
  induction j generalizing stamp with
  | zero => simpa using h
  | succ j ih =>
    obtain ⟨hfits, htaken⟩ := hpast 0 (Nat.succ_pos j)
    rw [Nat.cast_zero, Int.add_zero] at hfits htaken
    have hshift : ∀ i : Nat, stamp + 1 + (i : Int) = stamp + ((i + 1 : Nat) : Int) := by
      intro i
      push_cast
      ring
    refine .bump hfits htaken (ih (fun i hi => ?_) ?_)
    · rw [hshift]
      exact hpast (i + 1) (by omega)
    · rwa [hshift]

/-- Looking past as many identifiers as a search does is enough to come to the same end. -/
theorem Search.firstFreeId?_eq {bumps tries : Nat} {r : Option String}
    (h : Search taken base stamp bumps r) (htries : bumps ≤ tries) :
    firstFreeId? taken base tries stamp = r := by
  induction h generalizing tries with
  | free hfits hfree =>
    cases tries with
    | zero => exact stampedId?_of_fits hfits
    | succ tries =>
      rw [firstFreeId?, stampedId?_of_fits hfits, Option.bind_some, if_neg]
      rwa [List.contains_iff_mem]
  | wordless hno =>
    cases tries with
    | zero => exact stampedId?_of_not_fits hno
    | succ tries => rw [firstFreeId?, stampedId?_of_not_fits hno, Option.bind_none]
  | bump hfits htaken _ ih =>
    cases tries with
    | zero => exact absurd htries (Nat.not_succ_le_zero _)
    | succ tries =>
      rw [firstFreeId?, stampedId?_of_fits hfits, Option.bind_some,
        if_pos (List.contains_iff_mem.mpr htaken)]
      exact ih (Nat.le_of_succ_le_succ htries)

/-! ## The least free stamp -/

/-- So many consecutive stamps are not all taken by fewer identifiers. -/
theorem card_le_of_all_taken {n : Nat} (h : ∀ j < n, stampedId base (stamp + j) ∈ taken) :
    n ≤ taken.length := by
  have hnodup : ((List.range n).map fun j : Nat => stampedId base (stamp + j)).Nodup := by
    refine List.Nodup.map (fun i j hij => ?_) List.nodup_range
    have := stampedId_injective base hij
    omega
  have hsubset : ((List.range n).map fun j : Nat => stampedId base (stamp + j)) ⊆ taken := by
    intro id hid
    obtain ⟨j, hj, rfl⟩ := List.mem_map.mp hid
    exact h j (List.mem_range.mp hj)
  simpa using (List.subperm_of_subset hnodup hsubset).length_le

/-- **From every stamp on there is a least free one**, no further away than there are taken
identifiers. -/
theorem exists_leastFree (taken : List String) (base : String) (stamp : Int) :
    ∃ k ≤ taken.length, IsLeast {k : ℕ | stampedId base (stamp + k) ∉ taken} k := by
  have hfree : ∃ k : ℕ, stampedId base (stamp + k) ∉ taken := by
    by_contra! hall
    have htaken : ∀ j < taken.length + 1, stampedId base (stamp + j) ∈ taken := fun j _ => hall j
    exact Nat.not_succ_le_self _ (card_le_of_all_taken htaken)
  have htaken : ∀ j < Nat.find hfree, stampedId base (stamp + j) ∈ taken :=
    fun j hj => not_not.mp (Nat.find_min hfree hj)
  exact ⟨Nat.find hfree, card_le_of_all_taken htaken, Nat.find_spec hfree,
    fun j hj => Nat.find_min' hfree hj⟩

/-- The search comes to the least free stamp, or to one without a text before. -/
theorem search_leastFree {k : Nat} (hk : IsLeast {k : ℕ | stampedId base (stamp + k) ∉ taken} k) :
    ∃ bumps ≤ k, ∃ r, Search taken base stamp bumps r ∧
      (Numeral.Fits stamp ∧ Numeral.Fits (stamp + k) →
        bumps = k ∧ r = some (stampedId base (stamp + k))) ∧
      (¬ (Numeral.Fits stamp ∧ Numeral.Fits (stamp + k)) → r = none) := by
  obtain ⟨hfree, hleast⟩ := hk
  have hpassed : ∀ j < k, stampedId base (stamp + j) ∈ taken :=
    fun j hj => not_not.mp fun hno => absurd (hleast hno) (Nat.not_le_of_lt hj)
  by_cases hends : Numeral.Fits stamp ∧ Numeral.Fits (stamp + k)
  · have hfits : ∀ j ≤ k, Numeral.Fits (stamp + j) :=
      fun j hj => hends.1.between hends.2 (by omega) (by omega)
    have hsearch := Search.past (fun j hj => ⟨hfits j hj.le, hpassed j hj⟩)
      (.free (hfits k le_rfl) hfree)
    exact ⟨0 + k, (Nat.zero_add k).le, _, hsearch, fun _ => ⟨Nat.zero_add k, rfl⟩,
      fun hno => absurd hends hno⟩
  · have hno : ∃ j, j ≤ k ∧ ¬ Numeral.Fits (stamp + (j : Nat)) := by
      by_contra! hall
      exact hends ⟨by simpa using hall 0 (Nat.zero_le k), hall k le_rfl⟩
    -- the first stamp without a text comes before any other reason to stop
    have hbefore : ∀ j < Nat.find hno, Numeral.Fits (stamp + j) ∧
        stampedId base (stamp + j) ∈ taken := by
      intro j hj
      have hjk : j < k := hj.trans_le (Nat.find_spec hno).1
      exact ⟨by_contra fun h => Nat.find_min hno hj ⟨hjk.le, h⟩, hpassed j hjk⟩
    have hsearch := Search.past hbefore (.wordless (Nat.find_spec hno).2)
    exact ⟨_, (Nat.zero_add _).trans_le (Nat.find_spec hno).1, none, hsearch,
      fun h => absurd h hends, fun _ => rfl⟩

/-! ## New identifiers -/

variable {src : Sources} {store : Store} {id : String}

/-- The search from the clock reading on decides about a new identifier. -/
theorem uniqueId?_of_search {bumps : Nat} {r : Option String} (hclock : src.now? = some stamp)
    (h : Search store.folderIds base stamp bumps r) (hbumps : bumps ≤ store.folders.length) :
    uniqueId? src store base = r := by
  rw [uniqueId?, hclock, Option.bind_some]
  exact h.firstFreeId?_eq hbumps

/-- A new identifier is a stamped one that no folder has. -/
theorem uniqueId?_came (h : uniqueId? src store base = some id) :
    id ∉ store.folderIds ∧ ∃ stamp, id = stampedId base stamp := by
  obtain ⟨stamp, hclock, _⟩ := Option.bind_eq_some_iff.mp h
  obtain ⟨k, hk, hleast⟩ := exists_leastFree store.folderIds base stamp
  rw [Store.folderIds, List.length_map] at hk
  obtain ⟨bumps, hbumps, r, hsearch, hfound, hnone⟩ := search_leastFree hleast
  have hr : r = some id := (uniqueId?_of_search hclock hsearch (hbumps.trans hk)).symm.trans h
  by_cases hends : Numeral.Fits stamp ∧ Numeral.Fits (stamp + k)
  · obtain rfl : stampedId base (stamp + k) = id := Option.some.inj ((hfound hends).2.symm.trans hr)
    exact ⟨hleast.1, _, rfl⟩
  · rw [hnone hends] at hr
    cases hr

theorem uniqueId?_not_mem (h : uniqueId? src store base = some id) : id ∉ store.folderIds :=
  (uniqueId?_came h).1

theorem eq_stampedId_of_uniqueId? (h : uniqueId? src store base = some id) :
    ∃ stamp, id = stampedId base stamp :=
  (uniqueId?_came h).2

/-- A stamp that is the last with a text and taken leaves none for a new identifier. -/
theorem uniqueId?_of_last (hclock : src.now? = some stamp) (hfits : Numeral.Fits stamp)
    (hnext : ¬ Numeral.Fits (stamp + 1)) (htaken : stampedId base stamp ∈ store.folderIds) :
    uniqueId? src store base = none := by
  have hsearch : Search store.folderIds base stamp 1 none := .bump hfits htaken (.wordless hnext)
  refine uniqueId?_of_search hclock hsearch ?_
  have hpos := List.length_pos_of_mem htaken
  rwa [Store.folderIds, List.length_map] at hpos

/-- **A new identifier has the least free stamp.** From the clock reading on, whatever number it is,
the search for an identifier ends after no more bumps than there are folders, and in no other way than
one. It passes over exactly the stamps before the least one that no folder has, and gives the
identifier with this stamp, if the first stamp and this one have texts; otherwise there is no
identifier. -/
theorem uniqueId?_leastFree (src : Sources) (store : Store) (base : String) (c : Int)
    (hclock : src.now? = some c) :
    ∃ k ≤ store.folders.length,
      IsLeast {k : ℕ | ∀ f ∈ store.folders, f.id ≠ stampedId base (c + k)} k ∧
      ∃ bumps ≤ k, Search store.folderIds base c bumps (uniqueId? src store base) ∧
        (∀ n r, Search store.folderIds base c n r → n = bumps ∧ r = uniqueId? src store base) ∧
        (Numeral.Fits c ∧ Numeral.Fits (c + k) →
          bumps = k ∧ uniqueId? src store base = some (stampedId base (c + k))) ∧
        (¬ (Numeral.Fits c ∧ Numeral.Fits (c + k)) → uniqueId? src store base = none) := by
  obtain ⟨k, hk, hleast⟩ := exists_leastFree store.folderIds base c
  have hfolders : {k : ℕ | ∀ f ∈ store.folders, f.id ≠ stampedId base (c + k)} =
      {k : ℕ | stampedId base (c + k) ∉ store.folderIds} := by
    ext j
    simp [Store.folderIds]
  rw [Store.folderIds, List.length_map] at hk
  obtain ⟨bumps, hbumps, r, hsearch, hcame⟩ := search_leastFree hleast
  obtain rfl := uniqueId?_of_search hclock hsearch (hbumps.trans hk)
  exact ⟨k, hk, hfolders ▸ hleast, bumps, hbumps, hsearch, fun n r => hsearch.unique, hcame⟩

/-- A clock that says a number below zero, and taken stamps on both sides of it. -/
theorem uniqueId?_leastFree_below_zero :
    let src : Sources := { clock := fun _ => some (-1), colorFrom := fun _ colors => colors.head? }
    let store : Store :=
      { folders := [⟨"a-0", "A", "", none⟩, ⟨"a--1", "B", "", none⟩, ⟨"a-2", "C", "", none⟩,
          ⟨"a--2", "D", "", none⟩] }
    src.now? = some (-1) ∧ uniqueId? src store "a" = some "a-1" ∧
      ∃ k ≤ 4, IsLeast {k : ℕ | ∀ f ∈ store.folders, f.id ≠ stampedId "a" (-1 + k)} k ∧
        ∃ bumps ≤ k, Search store.folderIds "a" (-1) bumps (uniqueId? src store "a") := by
  intro src store
  have hclock : src.now? = some (-1) := rfl
  obtain ⟨k, hk, hleast, bumps, hbumps, hsearch, _⟩ := uniqueId?_leastFree src store "a" (-1) hclock
  exact ⟨hclock, by decide +kernel, k, hk, hleast, bumps, hbumps, hsearch⟩

/-- The stamp behind the last one with a text may be the least free one. -/
theorem uniqueId?_without_text :
    let last : Int := Nat.pow 10 Numeral.maxDigits - 1
    let src : Sources := { clock := fun _ => some last, colorFrom := fun _ colors => colors.head? }
    let store : Store := { folders := [⟨stampedId "trips" last, "Trips", "", none⟩] }
    src.now? = some last ∧
      ¬ ∃ k ≤ store.folders.length,
        IsLeast {k : ℕ | ∀ f ∈ store.folders, f.id ≠ stampedId "trips" (last + k)} k ∧
        uniqueId? src store "trips" = some (stampedId "trips" (last + k)) := by
  intro last src store
  have hpos : 0 < Nat.pow 10 Numeral.maxDigits := by decide +kernel
  have hfits : Numeral.Fits last := by
    unfold Numeral.Fits
    omega
  have hnext : ¬ Numeral.Fits (last + 1) := by
    rw [show last + 1 = Nat.pow 10 Numeral.maxDigits by omega, Numeral.Fits, Int.natAbs_natCast]
    exact Nat.lt_irrefl _
  have hnone : uniqueId? src store "trips" = none :=
    uniqueId?_of_last rfl hfits hnext (List.mem_singleton_self _)
  refine ⟨rfl, ?_⟩
  rintro ⟨k, _, _, hsome⟩
  rw [hnone] at hsome
  cases hsome

end Engine

end FolderTalk
