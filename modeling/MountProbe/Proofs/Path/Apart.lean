import MountProbe.Path

namespace MountProbe

namespace Path

theorem same_symm {p q : Path} (h : p.same q = true) : q.same p = true :=
  same_iff.mpr (same_iff.mp h).symm

theorem same_trans {p q r : Path} (h : p.same q = true) (k : q.same r = true) :
    p.same r = true :=
  same_iff.mpr ((same_iff.mp h).trans (same_iff.mp k))

theorem same_right {p q : Path} (h : p.same q = true) (r : Path) : r.same p = r.same q := by
  simp only [same, same_iff.mp h]

/-- No two of the paths lead to one place. -/
def Apart (ps : List Path) : Prop :=
  ps.Pairwise fun p q => ¬ p.same q = true

theorem Apart.perm {ps qs : List Path} (h : Apart ps) (perm : ps.Perm qs) : Apart qs :=
  (perm.pairwise_iff fun apart same => apart (same_symm same)).mp h

theorem Apart.eq_of_same {α : Type} {f : α → Path} {xs : List α} (h : Apart (xs.map f)) {a b : α}
    (ha : a ∈ xs) (hb : b ∈ xs) (same : (f a).same (f b) = true) : a = b := by
  induction xs with
  | nil => cases ha
  | cons x xs ih =>
    obtain ⟨head, tail⟩ := List.pairwise_cons.mp h
    rcases List.mem_cons.mp ha with first | later
    · rcases List.mem_cons.mp hb with first' | later
      · rw [first, first']
      · rw [first] at same
        exact absurd same (head (f b) (List.mem_map_of_mem later))
    · rcases List.mem_cons.mp hb with first | later'
      · rw [first] at same
        exact absurd (same_symm same) (head (f a) (List.mem_map_of_mem later))
      · exact ih tail later later'

theorem Apart.filter_same {α : Type} {f : α → Path} {xs : List α} (h : Apart (xs.map f)) {a : α}
    (member : a ∈ xs) {p : Path} (here : (f a).same p = true) :
    xs.filter (fun b => (f b).same p) = [a] := by
  induction xs with
  | nil => cases member
  | cons b rest ih =>
    obtain ⟨head, tail⟩ := List.pairwise_cons.mp h
    rcases List.mem_cons.mp member with rfl | later
    · have elsewhere : rest.filter (fun b => (f b).same p) = [] := by
        refine List.filter_eq_nil_iff.mpr fun b listed there => ?_
        exact head _ (List.mem_map_of_mem listed) (same_trans here (same_symm there))
      rw [List.filter_cons, if_pos here, elsewhere]
    · have elsewhere : ¬ (f b).same p = true := fun there =>
        head _ (List.mem_map_of_mem later) (same_trans there (same_symm here))
      rw [List.filter_cons, if_neg elsewhere, ih tail later]

theorem Apart.countP_le_one {ps : List Path} (h : Apart ps) (p : Path) :
    ps.countP (·.same p) ≤ 1 := by
  induction ps with
  | nil => simp
  | cons q ps ih =>
    obtain ⟨head, tail⟩ := List.pairwise_cons.mp h
    rw [List.countP_cons]
    split
    · rename_i here
      have no_other : ps.countP (·.same p) = 0 := by
        rw [List.countP_eq_zero]
        intro r member there
        exact head r member (same_trans here (same_symm there))
      omega
    · exact ih tail

theorem Apart.nodup {ps : List Path} (h : Apart ps) : (ps.map components).Nodup :=
  List.pairwise_map.mpr (h.imp fun apart equal => apart (same_iff.mpr equal))

theorem Apart.length_le {ps qs : List Path} (h : Apart ps)
    (among : ∀ p ∈ ps, ∃ q ∈ qs, q.same p = true) : ps.length ≤ qs.length := by
  have subset : ps.map components ⊆ qs.map components := by
    intro places member
    obtain ⟨p, here, rfl⟩ := List.mem_map.mp member
    obtain ⟨q, there, same⟩ := among p here
    exact List.mem_map.mpr ⟨q, there, same_iff.mp same⟩
  simpa using h.nodup.length_le_of_subset subset

end Path

end MountProbe
