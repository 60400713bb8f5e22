import MountProbe.Path

/-! The mount points whose stat call did not return in time. Mount points are compared by their
components, so each place is in the registry at most once, under the spelling of its first mark. -/
namespace MountProbe.Stuck

structure Entry where
  path : Path
  since : Nat
deriving DecidableEq, Inhabited, Repr

structure Registry where
  entries : List Entry
deriving DecidableEq, Inhabited, Repr

namespace Registry

def empty : Registry := ⟨[]⟩

def entry? (r : Registry) (p : Path) : Option Entry :=
  r.entries.find? fun e => e.path.same p

def isStuck (r : Registry) (p : Path) : Bool :=
  r.entries.any fun e => e.path.same p

def size (r : Registry) : Nat :=
  r.entries.length

def isEmpty (r : Registry) : Bool :=
  r.entries.isEmpty

/-- Marks a mount point as stuck from now on; one that is stuck already stays as it is. -/
def mark (r : Registry) (now : Nat) (p : Path) : Registry :=
  if r.isStuck p then r else ⟨⟨p, now⟩ :: r.entries⟩

def clear (r : Registry) (p : Path) : Registry :=
  ⟨r.entries.filter fun e => !e.path.same p⟩

/-- Marks a mount point unless its call is over; whether it is stuck now. -/
def markUnless (r : Registry) (now : Nat) (p : Path) (ended : Bool) : Registry × Bool :=
  if ended then (r, false) else (r.mark now p, true)

def sorted (r : Registry) : List Entry :=
  r.entries.mergeSort fun a b => a.path.compareByComponents b.path != .gt

theorem isStuck_empty (p : Path) : empty.isStuck p = false := rfl

theorem isStuck_mark {r : Registry} {now : Nat} {p q : Path} :
    (r.mark now p).isStuck q = (p.same q || r.isStuck q) := by
  unfold mark
  split
  · rename_i h
    cases hp : p.same q with
    | false => simp
    | true =>
      obtain ⟨e, he, hs⟩ := List.any_eq_true.1 h
      have here : e.path.same q = true :=
        Path.same_iff.2 ((Path.same_iff.1 hs).trans (Path.same_iff.1 hp))
      have stuck : r.isStuck q = true := List.any_eq_true.2 ⟨e, he, here⟩
      simp [stuck]
  · simp [isStuck]

theorem isStuck_clear {r : Registry} {p q : Path} :
    (r.clear p).isStuck q = (!p.same q && r.isStuck q) := by
  rw [Bool.eq_iff_iff]
  simp only [isStuck, clear, List.any_eq_true, List.mem_filter, Bool.and_eq_true,
    Bool.not_eq_true']
  constructor
  · rintro ⟨e, ⟨he, hn⟩, hs⟩
    refine ⟨?_, e, he, hs⟩
    rw [← hn]
    simp only [Path.same, Path.same_iff.1 hs]
    simp [eq_comm]
  · rintro ⟨hn, e, he, hs⟩
    refine ⟨e, ⟨he, ?_⟩, hs⟩
    rw [← hn]
    simp only [Path.same, Path.same_iff.1 hs]
    simp [eq_comm]

end Registry

end MountProbe.Stuck
