import FolderTalk.Session.Submit

/-!
# What one intent can do, and runs of intents

* `Came` : everything that executing an intent can come to, one case for each kind of end, with
  the guards that lead there (`execute_came`);
* `step`, `run` : the desk and the sources after one intent and after a list of them;
* `forall_prefix_iff` : a run is good throughout exactly if no step of it goes wrong;
* `Desk.All` : a property of the tree and of every recorded tree; what `change` keeps, a run keeps
  (`run_all`).
-/

namespace FolderTalk

/-! ## The newest entries of a list -/

theorem newest_suffix {α : Type} (n : Nat) (xs : List α) : newest n xs <:+ xs :=
  List.drop_suffix _ _

theorem length_newest {α : Type} (n : Nat) (xs : List α) : (newest n xs).length = min n xs.length := by
  rw [newest, List.length_drop]
  omega

theorem newest_eq_self {α : Type} {n : Nat} {xs : List α} (h : xs.length ≤ n) : newest n xs = xs := by
  rw [newest, Nat.sub_eq_zero_of_le h, List.drop_zero]

theorem newest_append {α : Type} {n : Nat} (xs : List α) {ys : List α} (h : ys.length ≤ n) :
    newest n (xs ++ ys) = newest (n - ys.length) xs ++ ys := by
  unfold newest
  rw [List.length_append, ← List.drop_append_of_le_length (by omega)]
  congr 1
  omega

/-- Dropping old entries before or after others come in makes no difference. -/
theorem newest_newest_append {α : Type} (n : Nat) (xs ys : List α) :
    newest n (newest n xs ++ ys) = newest n (xs ++ ys) := by
  rcases Nat.le_total xs.length n with h | h
  · rw [newest_eq_self h]
  · unfold newest
    rw [List.length_append, List.length_drop, ← List.drop_append_of_le_length (by omega),
      List.drop_drop]
    congr 1
    rw [List.length_append]
    omega

namespace History

@[simp] theorem push_limit (h : History) (s : Store) : (h.push s).limit = h.limit := rfl

theorem push_snapshots (h : History) (s : Store) :
    (h.push s).snapshots = newest h.limit (h.snapshots ++ [s]) := rfl

theorem size_push_le (h : History) (s : Store) : (h.push s).size ≤ h.limit := by
  rw [History.size, History.push_snapshots, length_newest]
  exact Nat.min_le_left _ _

/-- A history that fits its limit is made of its own trees. -/
theorem ofSnapshots_eq_self {h : History} {limit : Nat} (hpos : 0 < limit) (hlimit : h.limit = limit)
    (hsize : h.size ≤ h.limit) : ofSnapshots limit hpos h.snapshots = h := by
  subst hlimit
  rw [ofSnapshots, newest_eq_self hsize]

theorem ofSnapshots_nil {limit : Nat} (hpos : 0 < limit) :
    ofSnapshots limit hpos [] = empty limit hpos :=
  ofSnapshots_eq_self (h := empty limit hpos) hpos rfl (Nat.zero_le _)

theorem pop?_of_nil {h : History} (hs : h.snapshots = []) : h.pop? = none := by
  rw [pop?, hs, List.getLast?_nil, Option.map_none]

theorem pop?_of_snoc {h : History} {older : List Store} {s : Store} (hs : h.snapshots = older ++ [s]) :
    h.pop? = some (s, { h with snapshots := older }) := by
  rw [pop?, hs, List.getLast?_concat, Option.map_some, List.dropLast_concat]

end History

/-! ## Where a run goes wrong first -/

/-- Good states (`P`) look right (`Q`), a step from a good state leads to a good one unless it goes
wrong (`R`), and if it does then the next state does not look right: so all states of a run look right
exactly if none of its steps goes wrong. -/
theorem forall_prefix_iff {σ τ : Type} {f : σ → τ → σ} {P Q : σ → Prop} {R : σ → τ → Prop}
    (hlooks : ∀ s, P s → Q s) (hkeeps : ∀ s t, P s → ¬ R s t → P (f s t))
    (hwrong : ∀ s t, P s → R s t → ¬ Q (f s t)) (ts : List τ) {s : σ} (hs : P s) :
    (∀ before, before <+: ts → Q (before.foldl f s)) ↔
      ∀ before t, before ++ [t] <+: ts → ¬ R (before.foldl f s) t := by
  induction ts generalizing s with
  | nil =>
    refine ⟨fun _ before t hbefore => ?_, fun _ before hbefore => ?_⟩
    · exact absurd (List.prefix_nil.mp hbefore) (by simp)
    · rw [List.prefix_nil.mp hbefore]
      exact hlooks s hs
  | cons t ts ih =>
    by_cases hfirst : R s t
    · refine iff_of_false (fun h => hwrong s t hs hfirst (h [t] ?_)) (fun h => h [] t ?_ hfirst)
      · exact List.prefix_append [t] ts
      · exact List.prefix_append [t] ts
    · have hrest := ih (hkeeps s t hs hfirst)
      constructor
      · intro h before t' hbefore
        have htail : ∀ b, b <+: ts → Q (b.foldl f (f s t)) :=
          fun b hb => h (t :: b) (List.cons_prefix_cons.mpr ⟨rfl, hb⟩)
        cases before with
        | nil =>
          obtain ⟨rfl, _⟩ := List.cons_prefix_cons.mp hbefore
          exact hfirst
        | cons c before =>
          obtain ⟨rfl, hb⟩ := List.cons_prefix_cons.mp hbefore
          exact hrest.mp htail before t' hb
      · intro h before hbefore
        have htail : ∀ b t', b ++ [t'] <+: ts → ¬ R (b.foldl f (f s t)) t' :=
          fun b t' hb => h (t :: b) t' (List.cons_prefix_cons.mpr ⟨rfl, hb⟩)
        cases before with
        | nil => exact hlooks s hs
        | cons c before =>
          obtain ⟨rfl, hb⟩ := List.cons_prefix_cons.mp hbefore
          exact hrest.mpr htail before hb

/-! ## One intent -/

namespace Engine

/-- Everything that executing an intent on a desk can come to. -/
inductive Came (palette : List String) (src : Sources) (intent : Intent) (desk : Desk) :
    Effect × Sources → Prop
  | answered (h : intent.action = .info ∨ intent.action = .list) :
      Came palette src intent desk ({ desk := desk, message := intent.summary }, src)
  | opened (id : String) (h : intent.action = .openFolder id) :
      Came palette src intent desk
        ({ desk := { desk with selected := some id }, message := intent.summary }, src)
  | nothingRecorded (h : intent.action = .undo) (hs : desk.history.snapshots = []) :
      Came palette src intent desk ({ desk := desk, message := nothingToUndo }, src)
  | restored (older : List Store) (store : Store) (h : intent.action = .undo)
      (hs : desk.history.snapshots = older ++ [store]) :
      Came palette src intent desk
        ({ desk := { desk with store := store, history := { desk.history with snapshots := older } }
           message := undone }, src)
  | afresh (h : intent.action = .reset) : Came palette src intent desk (reset desk, src)
  | failed (left : Sources) (h : intent.action.changesTree)
      (hc : change palette src desk.store intent.action = (none, left)) :
      Came palette src intent desk ({ desk := desk, message := Engine.failed }, left)
  | applied (store : Store) (left : Sources) (h : intent.action.changesTree)
      (hc : change palette src desk.store intent.action = (some store, left)) :
      Came palette src intent desk
        ({ desk :=
            { store := store
              history := desk.history.push desk.store
              selected := selectionAfter intent.action desk.selected }
           message := replyTo intent desk.store
           mutated := true }, left)

theorem execute_of_changesTree (palette : List String) (src : Sources) (intent : Intent) (desk : Desk)
    (h : intent.action.changesTree) :
    execute palette src intent desk =
      match change palette src desk.store intent.action with
      | (none, src) => ({ desk := desk, message := failed }, src)
      | (some store, src) =>
        ({ desk :=
            { store := store
              history := desk.history.push desk.store
              selected := selectionAfter intent.action desk.selected }
           message := replyTo intent desk.store
           mutated := true }, src) := by
  obtain ⟨action, summary⟩ := intent
  cases action with
  | undo | reset | info | list | openFolder _ => cases h
  | _ => rfl

theorem came_undo (palette : List String) (src : Sources) (intent : Intent) (desk : Desk)
    (h : intent.action = .undo) : Came palette src intent desk (undo desk, src) := by
  unfold undo
  rcases List.eq_nil_or_concat desk.history.snapshots with hs | ⟨older, store, hs⟩
  · rw [History.pop?_of_nil hs]
    exact .nothingRecorded h hs
  · rw [List.concat_eq_append] at hs
    rw [History.pop?_of_snoc hs]
    exact .restored older store h hs

theorem came_of_changesTree (palette : List String) (src : Sources) (intent : Intent) (desk : Desk)
    (h : intent.action.changesTree) : Came palette src intent desk (execute palette src intent desk) := by
  rw [execute_of_changesTree _ _ _ _ h]
  rcases hc : change palette src desk.store intent.action with ⟨_ | store, left⟩
  · exact .failed left h hc
  · exact .applied store left h hc

theorem execute_came (palette : List String) (src : Sources) (intent : Intent) (desk : Desk) :
    Came palette src intent desk (execute palette src intent desk) := by
  cases ha : intent.action with
  | undo =>
    rw [execute, ha]
    exact came_undo palette src intent desk ha
  | reset =>
    rw [execute, ha]
    exact .afresh ha
  | info =>
    rw [execute, ha]
    exact .answered (.inl ha)
  | list =>
    rw [execute, ha]
    exact .answered (.inr ha)
  | openFolder id =>
    rw [execute, ha]
    exact .opened id ha
  | _ =>
    refine came_of_changesTree palette src intent desk ?_
    rw [ha]
    rfl

/-! ## Runs -/

/-- The desk and the sources after one intent. -/
def step (palette : List String) (p : Desk × Sources) (intent : Intent) : Desk × Sources :=
  ((execute palette p.2 intent p.1).1.desk, (execute palette p.2 intent p.1).2)

/-- The desk and the sources after the intents, one after another. -/
def run (palette : List String) (intents : List Intent) (p : Desk × Sources) : Desk × Sources :=
  intents.foldl (step palette) p

theorem run_cons (palette : List String) (i : Intent) (is : List Intent) (p : Desk × Sources) :
    run palette (i :: is) p = run palette is (step palette p i) := rfl

theorem run_append (palette : List String) (is js : List Intent) (p : Desk × Sources) :
    run palette (is ++ js) p = run palette js (run palette is p) := List.foldl_append

theorem step_limit (palette : List String) (p : Desk × Sources) (i : Intent) :
    (step palette p i).1.history.limit = p.1.history.limit := by
  unfold step
  have h := execute_came palette p.2 i p.1
  generalize execute palette p.2 i p.1 = r at h
  cases h <;> rfl

/-- A history that fits its limit still does after an intent. -/
theorem step_size_le (palette : List String) (p : Desk × Sources) (i : Intent)
    (h : p.1.history.size ≤ p.1.history.limit) :
    (step palette p i).1.history.size ≤ (step palette p i).1.history.limit := by
  unfold step
  have hcame := execute_came palette p.2 i p.1
  generalize execute palette p.2 i p.1 = r at hcame
  cases hcame with
  | restored older store _ hs =>
    have hsize : p.1.history.size = older.length + 1 := by rw [History.size, hs]; simp
    show older.length ≤ p.1.history.limit
    omega
  | afresh _ => exact Nat.zero_le _
  | applied store left _ _ => exact History.size_push_le _ _
  | _ => exact h

theorem run_limit (palette : List String) (is : List Intent) (p : Desk × Sources) :
    (run palette is p).1.history.limit = p.1.history.limit := by
  induction is generalizing p with
  | nil => rfl
  | cons i is ih => rw [run_cons, ih, step_limit]

end Engine

/-! ## Properties of every tree of a desk -/

/-- The property holds of the tree and of every recorded tree. -/
def Desk.All (P : Store → Prop) (d : Desk) : Prop := P d.store ∧ ∀ s ∈ d.history.snapshots, P s

instance (P : Store → Prop) [DecidablePred P] (d : Desk) : Decidable (d.All P) :=
  inferInstanceAs (Decidable (_ ∧ _))

theorem Desk.All.imp {P Q : Store → Prop} {d : Desk} (h : d.All P) (hPQ : ∀ s, P s → Q s) : d.All Q :=
  ⟨hPQ _ h.1, fun s hs => hPQ s (h.2 s hs)⟩

/-- A desk with the seed tree and nothing recorded. -/
theorem Desk.all_seed {P : Store → Prop} (h : P Store.seed) (limit : History.Limit)
    (selected : Option String) :
    Desk.All P ⟨Store.seed, .empty limit.val limit.property, selected⟩ :=
  ⟨h, fun _ hs => absurd hs List.not_mem_nil⟩

namespace Engine

variable {P : Store → Prop}

/-- A step keeps the property if its own change to the tree, should there be one, gives a tree that
has it. -/
theorem step_all_of_change (hseed : P Store.seed) (palette : List String) (p : Desk × Sources)
    (i : Intent)
    (hchange : ∀ s left, change palette p.2 p.1.store i.action = (some s, left) → P s)
    (h : p.1.All P) : (step palette p i).1.All P := by
  unfold step
  have hcame := execute_came palette p.2 i p.1
  generalize execute palette p.2 i p.1 = r at hcame
  cases hcame with
  | answered _ => exact h
  | opened id _ => exact h
  | nothingRecorded _ _ => exact h
  | restored older store _ hs =>
    have hmem : ∀ s ∈ older ++ [store], P s := hs ▸ h.2
    exact ⟨hmem store (by simp), fun s hmem' => hmem s (List.mem_append_left _ hmem')⟩
  | afresh _ => exact ⟨hseed, fun s hs => absurd hs (List.not_mem_nil)⟩
  | failed left _ _ => exact h
  | applied store left _ hc =>
    refine ⟨hchange store left hc, fun s hs => ?_⟩
    rcases List.mem_append.mp ((newest_suffix _ _).mem hs) with hold | hnew
    · exact h.2 s hold
    · rw [List.mem_singleton.mp hnew]
      exact h.1

theorem step_all (hseed : P Store.seed)
    (hchange : ∀ palette src s action s' left,
      change palette src s action = (some s', left) → P s → P s')
    (palette : List String) (p : Desk × Sources) (i : Intent) (h : p.1.All P) :
    (step palette p i).1.All P :=
  step_all_of_change hseed palette p i (fun _ _ hc => hchange _ _ _ _ _ _ hc h.1) h

/-- **A run keeps what changes to the tree keep**, in the tree and in every recorded tree. -/
theorem run_all (hseed : P Store.seed)
    (hchange : ∀ palette src s action s' left,
      change palette src s action = (some s', left) → P s → P s')
    (palette : List String) (is : List Intent) (p : Desk × Sources) (h : p.1.All P) :
    (run palette is p).1.All P := by
  induction is generalizing p with
  | nil => exact h
  | cons i is ih => exact ih _ (step_all hseed hchange palette p i h)

end Engine

end FolderTalk
