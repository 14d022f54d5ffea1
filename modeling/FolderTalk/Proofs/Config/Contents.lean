import FolderTalk.Proofs.Config.Paths
import Mathlib.Data.List.Infix

/-!
# What stands where

A mapping seen path by path: at the end of a path of keys stands a mapping, another value, or
nothing. Two mappings in which the same stands at every path hold the same, whatever the order of
their entries.

* `Spot`, `Layout` : what may stand at a path, and what stands at all of them;
* `Entries.layout` : the layout of a mapping;
* `layout_set`, `layout_mappingAt?` : the layout after an entry is set, and that of a mapping inside.
-/

namespace FolderTalk

/-- What may stand at a path: a mapping, or a value that is none. -/
inductive Spot where
  | mapping
  | leaf (v : Value)

def Spot.isLeaf : Spot → Bool
  | mapping => false
  | leaf _ => true

namespace Value

def spot : Value → Spot
  | .map _ => .mapping
  | v => .leaf v

/-- What stands at the end of a path through a value. -/
def at? : List String → Value → Option Spot
  | [], v => some v.spot
  | key :: keys, .map es =>
    match Entries.get? es key with
    | none => none
    | some v => at? keys v
  | _ :: _, _ => none

@[simp] theorem spot_map (es : Entries) : (Value.map es).spot = .mapping := rfl

theorem spot_of_leaf {v : Value} (h : ∀ es, v ≠ .map es) : v.spot = .leaf v := by
  cases v with
  | map es => exact absurd rfl (h es)
  | _ => rfl

theorem spot_eq_leaf_iff {v w : Value} : v.spot = .leaf w ↔ v = w ∧ ∀ es, v ≠ .map es := by
  cases v <;> simp [spot]

theorem at?_cons_of_leaf {v : Value} (h : ∀ es, v ≠ .map es) (key : String) (keys : List String) :
    v.at? (key :: keys) = none := by
  cases v with
  | map es => exact absurd rfl (h es)
  | _ => rfl

/-- Nothing stands below anything but a mapping. -/
theorem at?_below {path rest : List String} {v : Value} (h : v.at? path ≠ some .mapping)
    (hrest : rest ≠ []) : v.at? (path ++ rest) = none := by
  induction path generalizing v with
  | nil =>
    obtain ⟨key, keys, rfl⟩ := List.exists_cons_of_ne_nil hrest
    cases v with
    | map es => exact absurd rfl h
    | _ => rfl
  | cons key path ih =>
    cases v with
    | map es =>
      rw [List.cons_append, at?] at *
      cases hv : Entries.get? es key with
      | none => rfl
      | some v =>
        simp only [hv] at h ⊢
        exact ih h
    | _ => rfl

end Value

/-- What stands at each path. -/
abbrev Layout := List String → Option Spot

namespace Layout

def isLeafAt (l : Layout) (path : List String) : Bool := (l path).any Spot.isLeaf

/-- Whether nothing but mappings stands on the way along a path, its end left out. -/
def leads (l : Layout) (path : List String) : Bool :=
  path.inits.all fun before => before == path || !l.isLeafAt before

/-- The layout below a key, as that of a mapping. -/
def below (l : Layout) (key : String) : Layout
  | [] => some .mapping
  | keys => l (key :: keys)

/-- The layout with another one below a key. -/
def graft (l : Layout) (key : String) (inner : Layout) : Layout
  | [] => some .mapping
  | k :: keys => if k = key then inner keys else l (k :: keys)

theorem isLeafAt_eq_true {l : Layout} {path : List String} :
    l.isLeafAt path = true ↔ ∃ v, l path = some (.leaf v) := by
  unfold isLeafAt
  cases l path with
  | none => simp
  | some spot => cases spot <;> simp [Spot.isLeaf]

theorem leads_iff {l : Layout} {path : List String} :
    l.leads path = true ↔
      ∀ before v, before <+: path → l before = some (.leaf v) → before = path := by
  have hleaf : ∀ before, l.isLeafAt before = false ↔ ∀ v, l before ≠ some (.leaf v) :=
      fun before => by
    rw [← Bool.not_eq_true, isLeafAt_eq_true, not_exists]
  simp only [leads, List.all_eq_true, List.mem_inits, Bool.or_eq_true, beq_iff_eq, Bool.not_eq_true',
    hleaf]
  constructor
  · intro h before v hbefore hv
    exact (h before hbefore).resolve_right fun hno => hno v hv
  · intro h before hbefore
    by_cases heq : before = path
    · exact .inl heq
    · exact .inr fun v hv => heq (h before v hbefore hv)

theorem below_cons (l : Layout) (key k : String) (keys : List String) :
    l.below key (k :: keys) = l (key :: k :: keys) := rfl

theorem graft_cons (l : Layout) (key : String) (inner : Layout) (k : String) (keys : List String) :
    l.graft key inner (k :: keys) = if k = key then inner keys else l (k :: keys) := rfl

theorem graft_graft (l : Layout) (key : String) (inner inner' : Layout) :
    (l.graft key inner).graft key inner' = l.graft key inner' := by
  funext path
  cases path with
  | nil => rfl
  | cons k keys =>
    rw [graft_cons, graft_cons, graft_cons]
    split <;> rfl

theorem below_graft {inner : Layout} (h : inner [] = some .mapping) (l : Layout) (key : String) :
    (l.graft key inner).below key = inner := by
  funext path
  cases path with
  | nil => exact h.symm
  | cons k keys => rw [below_cons, graft_cons, if_pos rfl]

theorem graft_key (l : Layout) (key : String) (inner : Layout) :
    l.graft key inner [key] = inner [] := by
  rw [graft_cons, if_pos rfl]

end Layout

namespace Entries

/-- What stands at each path of a mapping. -/
def layout (es : Entries) : Layout := fun path => (Value.map es).at? path

variable {es : Entries} {key : String}

theorem layout_nil (es : Entries) : es.layout [] = some .mapping := rfl

theorem layout_cons (es : Entries) (key : String) (keys : List String) :
    es.layout (key :: keys) = (es.get? key).bind (Value.at? keys) := by
  unfold layout
  rw [Value.at?]
  cases es.get? key <;> rfl

theorem layout_below {path rest : List String} (h : es.layout path ≠ some .mapping)
    (hrest : rest ≠ []) : es.layout (path ++ rest) = none :=
  Value.at?_below h hrest

theorem layout_set (es : Entries) (key : String) (v : Value) (k : String) (keys : List String) :
    (es.set key v).layout (k :: keys) = if k = key then v.at? keys else es.layout (k :: keys) := by
  rw [layout_cons, get?_set]
  split
  · rfl
  · rw [layout_cons]

theorem layout_set_map (es inner : Entries) (key : String) :
    (es.set key (.map inner)).layout = es.layout.graft key inner.layout := by
  funext path
  cases path with
  | nil => rfl
  | cons k keys => exact layout_set es key (.map inner) k keys

theorem layout_empty (key : String) (keys : List String) : layout [] (key :: keys) = none := rfl

/-- The mapping under a key has what stands below the key, and there is none exactly where another
value stands. -/
theorem layout_mappingAt? (es : Entries) (key : String) :
    (∀ inner, es.mappingAt? key = some inner →
        es.layout.isLeafAt [key] = false ∧ inner.layout = es.layout.below key) ∧
      (es.mappingAt? key = none → es.layout.isLeafAt [key] = true) := by
  have hat : es.layout [key] = (es.get? key).map Value.spot := by
    rw [layout_cons]
    cases es.get? key <;> rfl
  unfold mappingAt? Layout.isLeafAt
  rw [hat]
  cases hget : es.get? key with
  | none =>
    refine ⟨fun inner h => ⟨rfl, ?_⟩, fun h => absurd h (by simp)⟩
    obtain rfl := Option.some.inj h
    funext path
    cases path with
    | nil => rfl
    | cons k keys => rw [layout_empty, Layout.below_cons, layout_cons, hget, Option.bind_none]
  | some v =>
    cases v with
    | map inner =>
      refine ⟨fun inner' h => ⟨rfl, ?_⟩, fun h => absurd h (by simp)⟩
      obtain rfl := Option.some.inj h
      funext path
      cases path with
      | nil => rfl
      | cons k keys => rw [Layout.below_cons, layout_cons es, hget, Option.bind_some]; rfl
    | _ => exact ⟨fun inner h => absurd h (by simp), fun _ => rfl⟩

end Entries

end FolderTalk
