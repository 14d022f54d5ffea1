import FolderTalk.Store.Basic

/-!
# Undo history

A bounded stack of stores, oldest first. A push onto a full history drops the oldest entry, so the
history always holds the newest stores that fit.
-/

namespace FolderTalk

/-- A number of stores to keep. -/
abbrev History.Limit := { n : Nat // 0 < n }

/-- The limit that is used unless another one is given. -/
def History.Limit.usual : History.Limit := ⟨20, by decide⟩

/-- The stores that undo can restore, oldest first. -/
structure History where
  limit : Nat
  snapshots : List Store
  limit_pos : 0 < limit
  deriving DecidableEq, Repr

/-- Why no history can be made: it would have no room for a single store. -/
inductive HistoryError where
  | noRoom
  deriving DecidableEq, Repr

def HistoryError.message : HistoryError → String
  | noRoom => "History limit must be at least 1."

/-- The last `n` entries of a list. -/
def newest {α : Type} (n : Nat) (xs : List α) : List α := xs.drop (xs.length - n)

namespace History

/-- The empty history with room for `limit` stores. -/
def empty (limit : Nat) (h : 0 < limit) : History := ⟨limit, [], h⟩

/-- A history of the newest of the given stores. -/
def ofSnapshots (limit : Nat) (h : 0 < limit) (snapshots : List Store) : History :=
  ⟨limit, newest limit snapshots, h⟩

/-- A history of the newest of the given stores, if it has room for any. -/
def make (limit : Int) (snapshots : List Store) : Except HistoryError History :=
  if h : 0 < limit then .ok (ofSnapshots limit.toNat (by omega) snapshots) else .error .noRoom

def size (h : History) : Nat := h.snapshots.length

/-- Records a store, dropping the oldest entry of a full history. -/
def push (h : History) (s : Store) : History :=
  { h with snapshots := newest h.limit (h.snapshots ++ [s]) }

/-- The newest store and the history without it. -/
def pop? (h : History) : Option (Store × History) :=
  h.snapshots.getLast?.map fun s => (s, { h with snapshots := h.snapshots.dropLast })

def clear (h : History) : History := { h with snapshots := [] }

end History

end FolderTalk
