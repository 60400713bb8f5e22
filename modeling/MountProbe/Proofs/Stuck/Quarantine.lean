import MountProbe.Proofs.Stuck.Steps

/-! What the registry holds. A mount point is in it only while a call on it is under way whose
caller has given up, so that no mount point outlives its calls there. -/
namespace MountProbe.Stuck

open Race (Deed Event Run Step)

theorem Registry.eq_empty {g : Registry} (none_stuck : ∀ p, g.isStuck p = false) : g = .empty := by
  cases he : g.entries with
  | nil =>
    cases g
    exact congrArg Registry.mk he
  | cons e rest =>
    have stuck : g.isStuck e.path = true := by simp [isStuck, he, Path.same_refl]
    rw [none_stuck e.path] at stuck
    contradiction

section

variable {κ : Type}

def Explained (r : Race κ) : Prop :=
  ∀ p, r.registry.isStuck p = true →
    ∃ (i : Nat) (c : Call κ), r.calls[i]? = some c ∧ c.path.same p = true ∧ c.isLeftBehind = true

theorem explained_empty : Explained (⟨.empty, []⟩ : Race κ) := by
  intro p stuck
  rw [Registry.isStuck_empty] at stuck
  contradiction

theorem Call.Does.isLeftBehind {c c' : Call κ} {d : Deed} (does : c.Does d c')
    (behind : c.isLeftBehind = true) (silent : ∀ entry, d ≠ .reported entry) :
    c'.isLeftBehind = true := by
  obtain ⟨told, under_way⟩ := isLeftBehind_iff.mp behind
  refine isLeftBehind_iff.mpr ⟨does.told told, ?_⟩
  cases does with
  | reported entry _ _ => exact absurd rfl (silent entry)
  | reportedInVain entry _ _ => exact absurd rfl (silent entry)
  | back _ _ => simp
  | _ => exact under_way

theorem Explained.step {r s : Race κ} {e : Event κ} (h : Explained r) (step : Step r e s) :
    Explained s := by
  intro p stuck
  cases e with
  | started q client =>
    rw [Race.step_started step] at stuck ⊢
    obtain ⟨i, c, call, same, behind⟩ := h p stuck
    have bound := (List.getElem?_eq_some_iff.mp call).1
    exact ⟨i, c, by simpa [Race.start, List.getElem?_append_left bound] using call, same, behind⟩
  | did i d =>
    obtain ⟨c, c', call, does, calls, registry⟩ := Race.step_did step
    rw [registry] at stuck
    have here : s.calls[i]? = some c' := by rw [calls]; exact Race.getElem?_set_self call c'
    have still : r.registry.isStuck p = true → (∀ entry, d ≠ .reported entry) →
        ∃ (j : Nat) (b : Call κ), s.calls[j]? = some b ∧ b.path.same p = true ∧
          b.isLeftBehind = true := by
      intro before silent
      obtain ⟨j, b, other, same, behind⟩ := h p before
      by_cases hj : j = i
      · subst hj
        cases Option.some.inj (call.symm.trans other)
        exact ⟨j, c', here, by rw [does.path_eq]; exact same, does.isLeftBehind behind silent⟩
      · refine ⟨j, b, ?_, same, behind⟩
        rw [calls, List.getElem?_set_ne (Ne.symm hj)]
        exact other
    cases d with
    | reported entry =>
      -- The call that accounts for what is left is on another place than the one that reports.
      rw [Registry.after, Registry.isStuck_clear, Bool.and_eq_true, Bool.not_eq_true'] at stuck
      obtain ⟨j, b, other, same, behind⟩ := h p stuck.2
      have hj : j ≠ i := by
        rintro rfl
        cases Option.some.inj (call.symm.trans other)
        rw [same] at stuck
        cases stuck.1
      refine ⟨j, b, ?_, same, behind⟩
      rw [calls, List.getElem?_set_ne (Ne.symm hj)]
      exact other
    | looked now gave_up =>
      cases gave_up with
      | false => exact still stuck (by simp)
      | true =>
        rw [Registry.after, Registry.isStuck_mark, Bool.or_eq_true] at stuck
        rcases stuck with same | stuck
        · refine ⟨i, c', here, by rw [does.path_eq]; exact same, ?_⟩
          cases does with
          | foundStuck _ _ under_way => exact Call.isLeftBehind_iff.mpr ⟨rfl, under_way⟩
        · exact still stuck (by simp)
    | back ending => exact still stuck (by simp)
    | expired => exact still stuck (by simp)
    | received answer => exact still stuck (by simp)

theorem explained_of_run {es : List (Event κ)} {r : Race κ} (run : Run ⟨.empty, []⟩ es r) :
    Explained r := by
  induction run with
  | refl => exact explained_empty
  | step _ step ih => exact ih.step step

/-- However calls interleave that share a registry, a mount point in it has a call under way whose
caller has given up. Once all calls are over nothing is stuck any more. -/
theorem stuck_only_while_under_way {es : List (Event κ)} {r : Race κ}
    (run : Run ⟨.empty, []⟩ es r) :
    (∀ p, r.registry.isStuck p = true →
      ∃ c ∈ r.calls, c.path.same p = true ∧ c.outcome? = some .timedOut ∧ c.isOver = false) ∧
    ((∀ c ∈ r.calls, c.isOver = true) → r.registry = .empty) := by
  have explained := explained_of_run run
  have behind : ∀ p, r.registry.isStuck p = true →
      ∃ c ∈ r.calls, c.path.same p = true ∧ c.outcome? = some .timedOut ∧ c.isOver = false := by
    intro p stuck
    obtain ⟨i, c, call, same, behind⟩ := explained p stuck
    obtain ⟨told, under_way⟩ := Call.isLeftBehind_iff.mp behind
    refine ⟨c, List.mem_of_getElem? call, same, Call.outcome?_eq_some.mpr told, ?_⟩
    simpa [← Call.isOver_iff] using under_way
  refine ⟨behind, fun all_over => Registry.eq_empty fun p => ?_⟩
  cases stuck : r.registry.isStuck p with
  | false => rfl
  | true =>
    obtain ⟨c, member, _, _, under_way⟩ := behind p stuck
    rw [all_over c member] at under_way
    contradiction

end

/-- A call is given up on and its place is stuck; it comes back, and nothing is stuck any more. -/
theorem stuck_only_while_under_way_of_one :
    ∃ (es fs : List (Event Unit)) (r s : Race Unit), Run ⟨.empty, []⟩ es r ∧
      r.registry.isStuck ⟨[47, 97]⟩ = true ∧
      (∃ c ∈ r.calls, c.path.same ⟨[47, 97]⟩ = true ∧ c.outcome? = some .timedOut ∧
        c.isOver = false) ∧
      Run ⟨.empty, []⟩ fs s ∧ s.registry = .empty := by
  have asked := (Run.refl (⟨.empty, []⟩ : Race Unit)).step (.start _ ⟨[47, 97, 47]⟩ ())
  have given_up := (asked.step (.expire (i := 0) rfl)).step
    (.look (show Race.look? _ 5 0 = some (_, true) from rfl))
  have back := (given_up.step
    (.finish (show Race.finish? _ 0 (.broken "late") = some _ from rfl))).step
    (.report (i := 0) rfl)
  refine ⟨_, _, _, _, given_up, rfl, (stuck_only_while_under_way given_up).1 ⟨[47, 97]⟩ rfl, back,
    (stuck_only_while_under_way back).2 fun c member => ?_⟩
  cases member with
  | head => rfl
  | tail _ other => cases other

end MountProbe.Stuck
