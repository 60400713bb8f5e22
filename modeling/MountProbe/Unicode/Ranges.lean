namespace MountProbe.Unicode

/-- Ranges of character numbers: first, last, and the step between members. -/
abbrev Ranges := List (Nat × Nat × Nat)

def Ranges.contains (ranges : Ranges) (n : Nat) : Bool :=
  ranges.any fun (first, last, step) => first ≤ n && n ≤ last && (n - first) % step == 0

end MountProbe.Unicode
