import MountProbe.Proofs.Path.Apart

namespace MountProbe

theorem Bytes.compareBytes_eq_compare : compareBytes = compare := by
  funext as bs
  rw [List.compare_eq_compareLex]
  induction as generalizing bs with
  | nil => cases bs <;> rfl
  | cons a as ih =>
    cases bs with
    | nil => rfl
    | cons b bs => rw [compareBytes, ih, List.compareLex_cons_cons]

namespace Path

namespace Component

def nameBytes : Component → Bytes
  | .name bytes => bytes
  | _ => []

theorem compare_eq_compareLex :
    Component.compare = compareLex (compareOn rank) (compareOn nameBytes) := by
  funext a b
  rcases a with _ | _ | _ | as <;> rcases b with _ | _ | _ | bs <;> try rfl
  exact congrFun (congrFun Bytes.compareBytes_eq_compare as) bs

theorem eq_of_rank_of_nameBytes {a b : Component} (rank : a.rank = b.rank)
    (name : a.nameBytes = b.nameBytes) : a = b := by
  cases a <;> cases b <;> simp_all [Component.rank, nameBytes]

end Component

instance : Std.TransCmp Component.compare := by
  rw [Component.compare_eq_compareLex]
  infer_instance

instance : Std.LawfulEqCmp Component.compare where
  eq_of_compare {a b} equal := by
    rw [Component.compare_eq_compareLex, compareLex_eq_eq] at equal
    exact Component.eq_of_rank_of_nameBytes (Std.LawfulEqCmp.eq_of_compare equal.1)
      (Std.LawfulEqCmp.eq_of_compare equal.2)

theorem compareSteps_eq_compareLex : compareSteps = List.compareLex Component.compare := by
  funext as bs
  induction as generalizing bs with
  | nil => cases bs <;> rfl
  | cons a as ih =>
    cases bs with
    | nil => rfl
    | cons b bs => rw [compareSteps, ih, List.compareLex_cons_cons]

instance : Std.TransCmp compareSteps := by
  rw [compareSteps_eq_compareLex]
  infer_instance

instance : Std.LawfulEqCmp compareSteps := by
  rw [compareSteps_eq_compareLex]
  infer_instance

theorem compareByComponents_eq_iff {p q : Path} :
    p.compareByComponents q = .eq ↔ p.same q = true := by
  rw [same_iff, compareByComponents, Std.LawfulEqCmp.compare_eq_iff_eq]

section

variable {α : Type} {f : α → Path} {xs ys : List α}

def upTo (f : α → Path) (a b : α) : Bool :=
  (f a).compareByComponents (f b) != .gt

theorem upTo_eq_isLE (a b : α) :
    upTo f a b = (compareSteps (f a).components (f b).components).isLE := by
  rw [upTo, compareByComponents]
  cases compareSteps (f a).components (f b).components <;> rfl

theorem upTo_trans {a b c : α} (first : upTo f a b = true) (second : upTo f b c = true) :
    upTo f a c = true := by
  rw [upTo_eq_isLE] at first second ⊢
  exact Std.TransCmp.isLE_trans first second

theorem upTo_total (a b : α) : (upTo f a b || upTo f b a) = true := by
  have swapped : compareSteps (f b).components (f a).components =
      (compareSteps (f a).components (f b).components).swap := Std.OrientedCmp.eq_swap
  rw [upTo_eq_isLE, upTo_eq_isLE, swapped]
  cases compareSteps (f a).components (f b).components <;> rfl

theorem upTo_of_same {a b : α} (same : (f a).same (f b) = true) : upTo f a b = true := by
  rw [upTo, compareByComponents_eq_iff.mpr same]
  rfl

theorem same_of_upTo {a b : α} (first : upTo f a b = true) (second : upTo f b a = true) :
    (f a).same (f b) = true := by
  rw [upTo_eq_isLE] at first second
  have equal : compareSteps (f a).components (f b).components = .eq :=
    Std.OrientedCmp.isLE_antisymm first second
  exact compareByComponents_eq_iff.mp equal

theorem sorted_mergeSort (f : α → Path) (xs : List α) :
    (xs.mergeSort (upTo f)).Pairwise fun a b => upTo f a b = true :=
  List.pairwise_mergeSort (fun _ _ _ => upTo_trans) upTo_total xs

theorem filter_mergeSort (xs : List α) (p : Path) :
    (xs.mergeSort (upTo f)).filter (fun a => (f a).same p) = xs.filter fun a => (f a).same p := by
  have alike : (xs.filter fun a => (f a).same p).Pairwise fun a b => upTo f a b = true := by
    refine List.pairwise_of_forall_mem_list fun a here b there => upTo_of_same ?_
    exact same_trans (List.mem_filter.mp here).2 (same_symm (List.mem_filter.mp there).2)
  have kept := (List.sublist_mergeSort (fun _ _ _ => upTo_trans) upTo_total alike
    List.filter_sublist).filter fun a => (f a).same p
  rw [List.filter_filter] at kept
  simp only [Bool.and_self] at kept
  refine (kept.eq_of_length ?_).symm
  exact ((List.mergeSort_perm xs (upTo f)).filter _).length_eq.symm

theorem mem_of_agree
    (agree : ∀ p, (xs.filter fun a => (f a).same p) = ys.filter fun a => (f a).same p) {a : α}
    (member : a ∈ xs) : a ∈ ys := by
  have here : a ∈ xs.filter fun b => (f b).same (f a) :=
    List.mem_filter.mpr ⟨member, same_refl _⟩
  rw [agree] at here
  exact (List.mem_filter.mp here).1

theorem head_upTo {a b : α} (sorted : (a :: xs).Pairwise fun a b => upTo f a b = true)
    (member : b ∈ a :: xs) : upTo f a b = true := by
  rcases List.mem_cons.mp member with rfl | later
  · exact upTo_of_same (same_refl _)
  · exact (List.pairwise_cons.mp sorted).1 b later

theorem eq_of_sorted (sorted : xs.Pairwise fun a b => upTo f a b = true)
    (sorted' : ys.Pairwise fun a b => upTo f a b = true)
    (agree : ∀ p, (xs.filter fun a => (f a).same p) = ys.filter fun a => (f a).same p) :
    xs = ys := by
  induction xs generalizing ys with
  | nil =>
    refine (List.eq_nil_iff_forall_not_mem.mpr fun a member => ?_).symm
    cases mem_of_agree (fun p => (agree p).symm) member
  | cons a xs ih =>
    cases ys with
    | nil => cases mem_of_agree agree List.mem_cons_self
    | cons b ys =>
      have first := head_upTo sorted (mem_of_agree (fun p => (agree p).symm) List.mem_cons_self)
      have first' := head_upTo sorted' (mem_of_agree agree List.mem_cons_self)
      have same := same_of_upTo first first'
      have heads := agree (f b)
      rw [List.filter_cons, if_pos same, List.filter_cons, if_pos (same_refl _)] at heads
      obtain ⟨rfl, -⟩ := List.cons.inj heads
      rw [ih (List.pairwise_cons.mp sorted).2 (List.pairwise_cons.mp sorted').2 fun p => ?_]
      have here := agree p
      rw [List.filter_cons, List.filter_cons] at here
      split at here
      · exact (List.cons.inj here).2
      · exact here

theorem mergeSort_eq_of_agree
    (agree : ∀ p, (xs.filter fun a => (f a).same p) = ys.filter fun a => (f a).same p) :
    xs.mergeSort (upTo f) = ys.mergeSort (upTo f) := by
  refine eq_of_sorted (sorted_mergeSort f xs) (sorted_mergeSort f ys) fun p => ?_
  rw [filter_mergeSort, filter_mergeSort, agree]

end

end Path

end MountProbe
