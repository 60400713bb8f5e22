import MountProbe.Proofs.FileTree.Stretches
import MountProbe.Proofs.Path.Pieces
import MountProbe.Textfile

namespace MountProbe.FileTree

section

variable {t : FileTree} {dir d : NodeId} {links left : Nat} {init : List Bytes} {n m : Bytes}
  {p : Path}

theorem locate_beside
    (located : t.locate links dir (init ++ [n]) = .ok (.entry d m, left)) :
    m = n ∧ t.isDirNode d = true ∧ ∀ k found, k ≠ [Path.dot] → k ≠ [Path.dot, Path.dot] →
      t.locate links dir (init ++ [k]) = .ok found → found = (.entry d k, left) := by
  obtain ⟨spot, left', i, fewer, -, -, is_dir, same⟩ :=
    locate_stretch (List.cons_ne_nil n []) located
  rw [same _ (List.cons_ne_nil n [])] at located
  obtain ⟨no_dot, no_up⟩ := ne_dots_of_locate located
  cases locate_one is_dir no_dot no_up located
  refine ⟨rfl, is_dir, fun k found no_dot no_up located' => ?_⟩
  rw [same _ (List.cons_ne_nil k [])] at located'
  exact locate_one is_dir no_dot no_up located'

/-- Pieces of a name with something after it that has no slash. -/
theorem splitAtSlashes_append {ending : Bytes} (no_slash : Path.slash ∉ ending) (raw : Bytes) :
    ∃ init last, Path.splitAtSlashes raw = init ++ [last] ∧
      Path.splitAtSlashes (raw ++ ending) = init ++ [last ++ ending] ∧
      (raw ≠ [] → raw.getLast? ≠ some Path.slash → last ≠ []) := by
  induction raw with
  | nil =>
    exact ⟨[], [], rfl, Path.splitAtSlashes_of_no_slash no_slash, fun more _ => absurd rfl more⟩
  | cons b raw ih =>
    obtain ⟨init, last, short, long, some_last⟩ := ih
    rw [List.cons_append, Path.splitAtSlashes, Path.splitAtSlashes, short, long]
    have inner : raw ≠ [] → (b :: raw).getLast? ≠ some Path.slash → last ≠ [] := by
      intro more open_end
      refine some_last more ?_
      rwa [List.getLast?_cons_of_ne_nil more] at open_end
    cases init with
    | nil =>
      by_cases slash : b = Path.slash
      · refine ⟨[[]], last, by simp [slash], by simp [slash], fun _ open_end => ?_⟩
        refine inner ?_ open_end
        rintro rfl
        exact open_end (by rw [slash]; rfl)
      · exact ⟨[], b :: last, by simp [slash], by simp [slash], by simp⟩
    | cons q qs =>
      have more : raw ≠ [] := by
        rintro rfl
        simp [Path.splitAtSlashes] at short
      by_cases slash : b = Path.slash
      · exact ⟨[] :: q :: qs, last, by simp [slash], by simp [slash], fun _ => inner more⟩
      · exact ⟨(b :: q) :: qs, last, by simp [slash], by simp [slash], fun _ => inner more⟩

/-- What is put after the name of a file for its next contents. -/
def ending : Bytes :=
  Text.utf8 ".tmp".toList

theorem raw_temporary (p : Path) : (Textfile.temporary p).raw = p.raw ++ ending := rfl

theorem steps_ending (raw : Bytes) : ∃ init last,
    steps raw = init ++ [last].filter (fun q => !q.isEmpty) ∧
      steps (raw ++ ending) = init ++ [last ++ ending] ∧
      (raw ≠ [] → raw.getLast? ≠ some Path.slash → last ≠ []) := by
  obtain ⟨init, last, short, long, some_last⟩ :=
    splitAtSlashes_append (show Path.slash ∉ ending by decide) raw
  refine ⟨init.filter fun q => !q.isEmpty, last, ?_, ?_, some_last⟩
  · rw [steps, short, List.filter_append]
  · rw [steps, long, List.filter_append,
      List.filter_cons_of_pos (by simp [show ending ≠ [] by decide]), List.filter_nil]

theorem append_ending_ne {short : Bytes} (few : short.length < 4) (last : Bytes) :
    last ++ ending ≠ short := by
  rintro rfl
  rw [List.length_append, show ending.length = 4 from by decide] at few
  omega

theorem spotOf_temporary_named {spot : Spot} (found : t.spotOf (Textfile.temporary p) = .ok spot) :
    ∃ e m, spot = .entry e m ∧ t.isDirNode e = true := by
  obtain ⟨-, links, located⟩ := spotOf_eq_ok.mp found
  obtain ⟨init, last, -, long, -⟩ := steps_ending p.raw
  rw [raw_temporary, long] at located
  obtain ⟨e, entry, is_dir⟩ := locate_named (append_ending_ne (by decide) last)
    (append_ending_ne (by decide) last) located
  exact ⟨e, _, entry, is_dir⟩

theorem spotOf_temporary (no_slash : p.raw.getLast? ≠ some Path.slash)
    (spot : t.spotOf p = .ok (.entry d n)) :
    t.isDirNode d = true ∧
      ∀ other, t.spotOf (Textfile.temporary p) = .ok other → other = .entry d (n ++ ending) := by
  obtain ⟨named, left, located⟩ := spotOf_eq_ok.mp spot
  have some_byte : p.raw ≠ [] := by
    intro empty
    rw [empty] at located
    rw [steps, Path.splitAtSlashes, List.filter_cons_of_neg (by simp), List.filter_nil,
      locate] at located
    cases located
  obtain ⟨init, last, steps_p, steps_tmp, some_last⟩ := steps_ending p.raw
  have last_step := some_last some_byte no_slash
  rw [List.filter_cons_of_pos (by simpa using last_step), List.filter_nil] at steps_p
  rw [steps_p] at located
  obtain ⟨rfl, at_dir, beside⟩ := locate_beside located
  refine ⟨at_dir, fun other found => ?_⟩
  obtain ⟨-, left', located'⟩ := spotOf_eq_ok.mp found
  have start : startOf t.current (p.raw ++ ending) = startOf t.current p.raw := by
    rw [startOf, startOf, List.head?_append_of_ne_nil _ some_byte]
  rw [raw_temporary, steps_tmp, start] at located'
  have same := beside _ _ (append_ending_ne (by decide) n) (append_ending_ne (by decide) n) located'
  exact congrArg Prod.fst same

end

end MountProbe.FileTree
