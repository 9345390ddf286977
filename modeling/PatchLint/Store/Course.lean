import PatchLint.Store

/-!
# Courses of a store

Four things are done to a store, in any order: an entry is set or deleted, the
store is cleared, or its changes are taken.  Taking the changes hands a batch to
the host, and a host that replays the batches builds a map of its own
(`Store.replayed`).
-/

namespace PatchLint

/-- Something that is done to a store. -/
inductive Store.Action where
  | set (p : Path) (records : List Record)
  | delete (p : Path)
  | clear
  | take
deriving DecidableEq, Repr

namespace Store

/-- The store after an action. -/
def act (s : Store) : Action → Store
  | .set p records => s.set p records
  | .delete p => s.delete p
  | .clear => s.clear
  | .take => s.taken

def run (s : Store) (as : List Action) : Store := as.foldl act s

/-- What an action hands to the host. -/
def batch? (s : Store) : Action → Option (List Change)
  | .take => some s.changes
  | _ => none

/-- All that some actions hand to the host, in order. -/
def batches (s : Store) : List Action → List (List Change)
  | [] => []
  | a :: as => (s.batch? a).toList ++ (s.act a).batches as

/-- What a host has after it has replayed batches. -/
def replayed (batches : List (List Change)) : PathMap (List Record) := batches.foldl replay ∅

/-- The action writes the entry of a path or removes it. -/
def Touches (s : Store) (p : Path) : Action → Prop
  | .set q records => q.Same p ∧ (records ≠ [] ∨ s.find? q ≠ none)
  | .delete q => q.Same p ∧ s.find? q ≠ none
  | .clear => s.find? p ≠ none
  | .take => False

/-! ## Laws -/

/-- An action after others. -/
theorem run_concat (s : Store) (as : List Action) (a : Action) :
    s.run (as ++ [a]) = (s.run as).act a := by
  simp [run]

/-- The batches of actions one after the other. -/
theorem batches_append (s : Store) (as more : List Action) :
    s.batches (as ++ more) = s.batches as ++ (s.run as).batches more := by
  induction as generalizing s with
  | nil => rfl
  | cons a as ih => simp [batches, run, ih]

end Store

end PatchLint
