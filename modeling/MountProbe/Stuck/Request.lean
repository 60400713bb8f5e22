import MountProbe.Stuck.Registry

namespace MountProbe.Stuck

inductive Request (α : Type) where
  | isStuck
  | mark
  | clear
  /-- Marks the path unless the call on it has ended. -/
  | markUnless (ended : Bool)
  /-- Publishes what became of the call on the path, and clears it. -/
  | clearAfter (published : α)
deriving DecidableEq, Repr

/-- What is said of a time is how long ago it was. -/
inductive Answer (α : Type) where
  | told (b : Bool)
  | cleared (stuckFor : Option Nat)
  | published (a : α) (stuckFor : Option Nat)
deriving DecidableEq, Repr

structure StuckMount where
  mountPoint : Path
  stuckFor : Nat
deriving DecidableEq, Repr

namespace Registry

def stuckFor (r : Registry) (now : Nat) (p : Path) : Option Nat :=
  (r.entry? p).map fun e => now - e.since

def answer {α : Type} (r : Registry) (now : Nat) (p : Path) : Request α → Registry × Answer α
  | .isStuck => (r, .told (r.isStuck p))
  | .mark => (r.mark now p, .told (!r.isStuck p))
  | .clear => (r.clear p, .cleared (r.stuckFor now p))
  | .markUnless ended =>
    let (r', marked) := r.markUnless now p ended
    (r', .told marked)
  | .clearAfter a => (r.clear p, .published a (r.stuckFor now p))

/-- The entries in the order of their places. -/
def stuckMounts (r : Registry) (now : Nat) : List StuckMount :=
  r.sorted.map fun e => { mountPoint := e.path, stuckFor := now - e.since }

end Registry

end MountProbe.Stuck
