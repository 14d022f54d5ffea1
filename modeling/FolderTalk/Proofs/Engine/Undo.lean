import FolderTalk.Proofs.Engine.Step

/-!
# Bounded undo and unbounded undo

The undo history forgets its oldest tree when it is full. Beside it stands a stack that never
forgets. As long as no undo has asked for a tree that was forgotten, nobody can tell the two apart:
the trees are the same and the history is the newest part of the stack.

The history is in general a shorter part of the stack than its limit allows, because what an undo
takes away does not bring back what a push has dropped. So the invariant is that the history is
some end of the stack, and not that it is its last `limit` entries.
-/

namespace FolderTalk

/-- A tree with a stack of earlier trees that is never cut, oldest first. -/
structure Unbounded where
  store : Store
  stack : List Store
  deriving DecidableEq, Repr

namespace Unbounded

/-- Takes the newest tree from the stack, if there is one. -/
def undo (u : Unbounded) : Unbounded :=
  match u.stack.getLast? with
  | none => u
  | some store => ⟨store, u.stack.dropLast⟩

/-- Applies an intent; an applied change to the tree is recorded. There is no return to the seed
tree here. -/
def step (palette : List String) (p : Unbounded × Sources) (intent : Intent) : Unbounded × Sources :=
  if intent.action = .undo then (p.1.undo, p.2)
  else if intent.action.changesTree then
    match Engine.change palette p.2 p.1.store intent.action with
    | (none, src) => (p.1, src)
    | (some store, src) => (⟨store, p.1.stack ++ [p.1.store]⟩, src)
  else p

/-- The intents one after another. -/
def run (palette : List String) (intents : List Intent) (p : Unbounded × Sources) :
    Unbounded × Sources :=
  intents.foldl (step palette) p

theorem undo_of_nil {u : Unbounded} (h : u.stack = []) : u.undo = u := by
  rw [undo, h, List.getLast?_nil]

theorem undo_of_snoc {u : Unbounded} {older : List Store} {s : Store} (h : u.stack = older ++ [s]) :
    u.undo = ⟨s, older⟩ := by
  rw [undo, h, List.getLast?_concat, List.dropLast_concat]

end Unbounded

namespace Engine

/-- An undo that finds no recorded tree although the unbounded stack still has one. -/
def Misses (intent : Intent) (d : Desk) (u : Unbounded) : Prop :=
  intent.action = .undo ∧ d.history.snapshots = [] ∧ u.stack ≠ []

instance (intent : Intent) (d : Desk) (u : Unbounded) : Decidable (Misses intent d u) :=
  inferInstanceAs (Decidable (_ ∧ _ ∧ _))

/-- No undo of the run misses a tree. -/
def Covered (palette : List String) : List Intent → Desk × Sources → Unbounded × Sources → Prop
  | [], _, _ => True
  | i :: is, p, q =>
    ¬ Misses i p.1 q.1 ∧ Covered palette is (step palette p i) (Unbounded.step palette q i)

instance decidableCovered (palette : List String) :
    ∀ is p q, Decidable (Covered palette is p q)
  | [], _, _ => inferInstanceAs (Decidable True)
  | i :: is, p, q =>
    have := decidableCovered palette is (step palette p i) (Unbounded.step palette q i)
    inferInstanceAs (Decidable (_ ∧ _))

/-- The two machines hold the same tree, have drawn the same from the sources, and the history is
the newest part of the stack. -/
structure Follows (p : Desk × Sources) (q : Unbounded × Sources) : Prop where
  store : p.1.store = q.1.store
  sources : p.2 = q.2
  recorded : p.1.history.snapshots <:+ q.1.stack
  bounded : p.1.history.size ≤ p.1.history.limit

variable {palette : List String} {p : Desk × Sources} {q : Unbounded × Sources} {intent : Intent}

/-! ## One intent on both machines -/

theorem newest_push_suffix {h : History} {stack : List Store} (s : Store)
    (hs : h.snapshots <:+ stack) : (h.push s).snapshots <:+ stack ++ [s] := by
  obtain ⟨dropped, rfl⟩ := hs
  rw [History.push_snapshots, List.append_assoc]
  exact (newest_suffix _ _).trans (List.suffix_append _ _)

theorem unbounded_step_of_nothingRecorded (hundo : intent.action = .undo)
    (hnone : p.1.history.snapshots = []) (hm : ¬ Misses intent p.1 q.1) :
    Unbounded.step palette q intent = q := by
  have hstack : q.1.stack = [] := Decidable.byContradiction fun hne => hm ⟨hundo, hnone, hne⟩
  rw [Unbounded.step, if_pos hundo, Unbounded.undo_of_nil hstack]

variable (palette) in
theorem Follows.undo_some (h : Follows p q) (hundo : intent.action = .undo) {older : List Store}
    {store : Store} (hs : p.1.history.snapshots = older ++ [store]) :
    ∃ rest, older <:+ rest ∧ Unbounded.step palette q intent = (⟨store, rest⟩, q.2) := by
  obtain ⟨dropped, hstack⟩ := h.recorded
  rw [hs, ← List.append_assoc] at hstack
  refine ⟨dropped ++ older, List.suffix_append _ _, ?_⟩
  rw [Unbounded.step, if_pos hundo, Unbounded.undo_of_snoc hstack.symm]

theorem not_undo_of_changesTree (h : intent.action.changesTree) : intent.action ≠ .undo := by
  intro hundo
  rw [hundo] at h
  cases h

theorem unbounded_step_of_changesTree (h : intent.action.changesTree) :
    Unbounded.step palette q intent =
      match change palette q.2 q.1.store intent.action with
      | (none, src) => (q.1, src)
      | (some store, src) => (⟨store, q.1.stack ++ [q.1.store]⟩, src) := by
  rw [Unbounded.step, if_neg (not_undo_of_changesTree h), if_pos h]

theorem unbounded_step_of_reply (hu : intent.action ≠ .undo) (h : intent.action.changesTree = false) :
    Unbounded.step palette q intent = q := by
  rw [Unbounded.step, if_neg hu, h, if_neg Bool.false_ne_true]

/-- **One intent keeps the two machines together**, unless it is an undo that misses a tree. -/
theorem Follows.step (h : Follows p q) (hreset : intent.action ≠ .reset)
    (hm : ¬ Misses intent p.1 q.1) :
    Follows (step palette p intent) (Unbounded.step palette q intent) := by
  unfold Engine.step
  have hcame := execute_came palette p.2 intent p.1
  generalize execute palette p.2 intent p.1 = r at hcame
  cases hcame with
  | answered ha =>
    have hreply : Unbounded.step palette q intent = q := by
      rcases ha with ha | ha <;>
        exact unbounded_step_of_reply (by rw [ha]; decide) (by rw [ha]; rfl)
    rw [hreply]
    exact ⟨h.store, h.sources, h.recorded, h.bounded⟩
  | opened id ha =>
    rw [unbounded_step_of_reply (by rw [ha]; simp) (by rw [ha]; rfl)]
    exact ⟨h.store, h.sources, h.recorded, h.bounded⟩
  | nothingRecorded ha hs =>
    rw [unbounded_step_of_nothingRecorded ha hs hm]
    exact ⟨h.store, h.sources, h.recorded, h.bounded⟩
  | restored older store ha hs =>
    obtain ⟨rest, hsuffix, hstep⟩ := h.undo_some palette ha hs
    rw [hstep]
    refine ⟨rfl, h.sources, hsuffix, ?_⟩
    have hsize := h.bounded
    rw [History.size, hs, List.length_append] at hsize
    exact Nat.le_trans (Nat.le_add_right _ _) hsize
  | afresh ha => exact absurd ha hreset
  | failed left ha hc =>
    rw [unbounded_step_of_changesTree ha, ← h.store, ← h.sources, hc]
    exact ⟨h.store, rfl, h.recorded, h.bounded⟩
  | applied store left ha hc =>
    rw [unbounded_step_of_changesTree ha, ← h.store, ← h.sources, hc]
    exact ⟨rfl, rfl, newest_push_suffix _ h.recorded, History.size_push_le _ _⟩

theorem Follows.run {is : List Intent} (h : Follows p q) (hreset : ∀ i ∈ is, i.action ≠ .reset)
    (hc : Covered palette is p q) : Follows (run palette is p) (Unbounded.run palette is q) := by
  induction is generalizing p q with
  | nil => exact h
  | cons i is ih =>
    refine ih (h.step (hreset i (List.mem_cons_self ..)) hc.1) ?_ hc.2
    exact fun j hj => hreset j (List.mem_cons_of_mem _ hj)

/-! ## Changes followed by as many undos -/

/-- How many of the intents are applied to the tree. -/
def appliedCount (palette : List String) : List Intent → Desk × Sources → Nat
  | [], _ => 0
  | i :: is, p =>
    (if (execute palette p.2 i p.1).1.mutated then 1 else 0)
      + appliedCount palette is (step palette p i)

variable (palette) in
/-- One intent that is neither undo nor reset records the tree or leaves it as it was. -/
theorem step_records (hundo : intent.action ≠ .undo) (hreset : intent.action ≠ .reset) :
    ((execute palette p.2 intent p.1).1.mutated = true ∧
        (step palette p intent).1.history = p.1.history.push p.1.store) ∨
      ((execute palette p.2 intent p.1).1.mutated = false ∧
        (step palette p intent).1.history = p.1.history ∧
        (step palette p intent).1.store = p.1.store) := by
  unfold step
  have hcame := execute_came palette p.2 intent p.1
  generalize execute palette p.2 intent p.1 = r at hcame
  cases hcame with
  | answered _ => exact .inr ⟨rfl, rfl, rfl⟩
  | opened _ _ => exact .inr ⟨rfl, rfl, rfl⟩
  | nothingRecorded ha _ => exact absurd ha hundo
  | restored _ _ ha _ => exact absurd ha hundo
  | afresh ha => exact absurd ha hreset
  | failed _ _ _ => exact .inr ⟨rfl, rfl, rfl⟩
  | applied _ _ _ _ => exact .inl ⟨rfl, rfl⟩

variable (palette) in
/-- After a run without undo and reset the history is the newest part of what it was together with
one tree for each applied change; those trees and the present one begin with the start tree. -/
theorem run_records {is : List Intent}
    (h : ∀ i ∈ is, i.action ≠ .undo ∧ i.action ≠ .reset)
    (hstart : p.1.history.size ≤ p.1.history.limit) :
    ∃ trees, trees.length = appliedCount palette is p ∧
      (trees ++ [(run palette is p).1.store]).head? = some p.1.store ∧
      (run palette is p).1.history.snapshots =
        newest p.1.history.limit (p.1.history.snapshots ++ trees) := by
  induction is generalizing p with
  | nil =>
    refine ⟨[], rfl, rfl, ?_⟩
    rw [List.append_nil, newest_eq_self hstart]
    rfl
  | cons i is ih =>
    obtain ⟨hi, his⟩ := List.forall_mem_cons.mp h
    have hlimit := step_limit palette p i
    rcases step_records palette (p := p) hi.1 hi.2 with
      ⟨hmutated, hhistory⟩ | ⟨hmutated, hhistory, hstore⟩
    · obtain ⟨trees, hlen, -, hsnap⟩ := ih (p := step palette p i) his
        (by rw [hhistory]; exact History.size_push_le _ _)
      refine ⟨p.1.store :: trees, ?_, rfl, ?_⟩
      · rw [appliedCount, hmutated, if_pos rfl, ← hlen, List.length_cons, Nat.add_comm]
      · rw [run_cons, hsnap, hlimit, hhistory, History.push_snapshots]
        rw [newest_newest_append, List.append_assoc]
        rfl
    · obtain ⟨trees, hlen, hhead, hsnap⟩ := ih (p := step palette p i) his
        (by rw [hhistory]; exact hstart)
      refine ⟨trees, ?_, ?_, ?_⟩
      · rw [appliedCount, hmutated, if_neg Bool.false_ne_true, Nat.zero_add, hlen]
      · rw [run_cons, hhead, hstore]
      · rw [run_cons, hsnap, hhistory]

variable (palette) in
/-- As many undos as there are trees at the end of the history take them all away and restore the
first of them. -/
theorem run_undos {undos : List Intent} (h : ∀ i ∈ undos, i.action = .undo) {older trees : List Store}
    (hs : p.1.history.snapshots = older ++ trees) (hlen : undos.length = trees.length) :
    (trees ++ [p.1.store]).head? = some (run palette undos p).1.store ∧
      (run palette undos p).1.history.snapshots = older := by
  induction undos generalizing p trees with
  | nil =>
    obtain rfl := List.eq_nil_of_length_eq_zero hlen.symm
    exact ⟨rfl, hs.trans (List.append_nil older)⟩
  | cons i is ih =>
    obtain ⟨hi, his⟩ := List.forall_mem_cons.mp h
    obtain ⟨trees, newestTree, rfl⟩ : ∃ init last, trees = init ++ [last] := by
      rcases List.eq_nil_or_concat trees with rfl | ⟨init, last, hconcat⟩
      · cases hlen
      · exact ⟨init, last, hconcat.trans (List.concat_eq_append ..)⟩
    have hstep : step palette p i =
        ({ p.1 with
            store := newestTree
            history := { p.1.history with snapshots := older ++ trees } }, p.2) := by
      unfold step
      rw [execute, hi]
      simp only [undo, History.pop?_of_snoc (hs.trans (List.append_assoc ..).symm)]
    rw [run_cons, hstep]
    have hrest := ih (p := ({ p.1 with
        store := newestTree
        history := { p.1.history with snapshots := older ++ trees } }, p.2)) his rfl
      (by simpa using hlen)
    refine ⟨?_, hrest.2⟩
    rw [← hrest.1]
    cases trees <;> rfl

/-- **Bounded undo is unbounded undo** until an undo misses a tree: after every run without reset
both machines hold the same tree and have drawn the same from the sources, and the history is the
newest part of the stack and within its limit. In particular so many undos as there were applied
changes, no more than the limit, restore the start tree exactly and leave the newest part of the
start history for which there was room beside the changes. -/
theorem run_follows_unbounded (palette : List String) (src : Sources) (desk : Desk)
    (hstart : desk.history.size ≤ desk.history.limit) :
    (∀ intents : List Intent, (∀ i ∈ intents, i.action ≠ .reset) →
        Covered palette intents (desk, src) (⟨desk.store, desk.history.snapshots⟩, src) →
        let bounded := run palette intents (desk, src)
        let unbounded :=
          Unbounded.run palette intents (⟨desk.store, desk.history.snapshots⟩, src)
        bounded.1.store = unbounded.1.store ∧ bounded.2 = unbounded.2 ∧
          bounded.1.history.snapshots <:+ unbounded.1.stack ∧
          bounded.1.history.size ≤ desk.history.limit) ∧
      (∀ changes undos : List Intent,
        (∀ i ∈ changes, i.action ≠ .undo ∧ i.action ≠ .reset) →
        (∀ i ∈ undos, i.action = .undo) →
        undos.length = appliedCount palette changes (desk, src) →
        undos.length ≤ desk.history.limit →
        let after := (run palette (changes ++ undos) (desk, src)).1
        after.store = desk.store ∧
          after.history.snapshots =
            newest (desk.history.limit - undos.length) desk.history.snapshots) := by
  refine ⟨fun intents hreset hcovered => ?_, fun changes undos hchanges hundos hlen hle => ?_⟩
  · have hfirst : Follows (desk, src) (⟨desk.store, desk.history.snapshots⟩, src) :=
      ⟨rfl, rfl, List.suffix_rfl, hstart⟩
    have h := hfirst.run hreset hcovered
    have hlimit := run_limit palette intents (desk, src)
    exact ⟨h.store, h.sources, h.recorded, hlimit ▸ h.bounded⟩
  · obtain ⟨trees, htrees, hhead, hsnap⟩ :=
      run_records palette (p := (desk, src)) hchanges hstart
    have hroom : trees.length ≤ desk.history.limit := by omega
    rw [newest_append _ hroom] at hsnap
    have h := run_undos palette hundos hsnap (by omega)
    rw [hhead] at h
    intro after
    have hafter : after = (run palette undos (run palette changes (desk, src))).1 := by
      rw [← run_append]
    rw [hafter]
    refine ⟨(Option.some.inj h.1).symm, ?_⟩
    rw [h.2, hlen, htrees]

/-- A full history with room for two trees: three changes push out the start history, two undos
leave it empty and one more change is recorded and undone; and two changes are undone again. -/
theorem run_follows_unbounded_full_history :
    let src : Sources := { clock := fun k => some k, colorFrom := fun _ colors => colors.head? }
    let desk : Desk := { store := Store.seed, history := ⟨2, [{}, Store.seed], by decide⟩ }
    let start : Unbounded := ⟨desk.store, desk.history.snapshots⟩
    let undos : List Intent := [⟨.undo, ""⟩, ⟨.undo, "again"⟩]
    let changes : List Intent :=
      [⟨.createSimple "A", ""⟩, ⟨.list, ""⟩, ⟨.deleteFolder "media" "Media", ""⟩]
    let intents : List Intent := changes ++ ⟨.renameFolder "images" "Images" "B", ""⟩ :: undos
      ++ [⟨.moveFile "song.mp3" ⟨"c", "C"⟩ true, ""⟩, ⟨.undo, ""⟩]
    let bounded := run Palette.builtIn intents (desk, src)
    let unbounded := Unbounded.run Palette.builtIn intents (start, src)
    let after := (run Palette.builtIn (changes ++ undos) (desk, src)).1
    (Covered Palette.builtIn intents (desk, src) (start, src) ∧
      bounded.1.store = unbounded.1.store ∧ bounded.2 = unbounded.2 ∧
      bounded.1.history.snapshots <:+ unbounded.1.stack ∧
      bounded.1.history.size ≤ desk.history.limit) ∧
    (undos.length = appliedCount Palette.builtIn changes (desk, src) ∧ after.store = desk.store ∧
      after.history.snapshots =
        newest (desk.history.limit - undos.length) desk.history.snapshots) := by
  intro src desk start undos changes intents
  have hstart : desk.history.size ≤ desk.history.limit := by decide
  have hreset : ∀ i ∈ intents, i.action ≠ .reset := by decide
  have hcovered : Covered Palette.builtIn intents (desk, src) (start, src) := by decide +kernel
  have hcount : undos.length = appliedCount Palette.builtIn changes (desk, src) := by
    decide +kernel
  have hchanges : ∀ i ∈ changes, i.action ≠ .undo ∧ i.action ≠ .reset := by decide
  have h := run_follows_unbounded Palette.builtIn src desk hstart
  exact ⟨⟨hcovered, h.1 intents hreset hcovered⟩,
    hcount, h.2 changes undos hchanges (by decide) hcount (by decide)⟩

end Engine

end FolderTalk
