import MountProbe.Proofs.Collector.Orderly

namespace MountProbe.Traffic

open Stuck (OneEach Race)

/-- Nobody else is between looking at the mount and giving up on it. -/
def Alone (t : Traffic) : Event → Prop
  | .considered i l false =>
    (∀ (j : Nat) (c : Cycle) (m : Mount.Label), j ≠ i → t.cycles[j]? = some c →
      c.pool.handing = some m → ¬ m.mountPoint.same l.mountPoint = true) ∧
    ∀ call ∈ t.race.calls, call.path.same l.mountPoint = true →
      call.isOver = true ∨ call.isLeftBehind = true
  | .called _ _ => False
  | _ => True

/-- What can come of cycles that do not meet on a mount, from an empty registry on. -/
inductive RunAlone : List Event → Traffic → Prop where
  | start : RunAlone [] empty
  | step {t u : Traffic} {es : List Event} {e : Event} :
    RunAlone es t → Step t e u → t.Alone e → RunAlone (es ++ [e]) u

theorem RunAlone.run {t : Traffic} {es : List Event} (h : RunAlone es t) : Run empty es t := by
  induction h with
  | start => exact .refl empty
  | step _ step _ ih => exact ih.step step

/-- On what a cycle is about to ask for nothing is under way, and no other cycle is about to ask for
it. -/
structure Separate (t : Traffic) : Prop where
  race : OneEach t.race
  free : ∀ (i : Nat) (c : Cycle) (l : Mount.Label), t.cycles[i]? = some c →
    c.pool.handing = some l →
    ∀ call ∈ t.race.calls, call.path.same l.mountPoint = true → call.isOver = true
  apart : ∀ (i j : Nat) (b c : Cycle) (l m : Mount.Label), i ≠ j → t.cycles[i]? = some b →
    t.cycles[j]? = some c → b.pool.handing = some l → c.pool.handing = some m →
    ¬ l.mountPoint.same m.mountPoint = true

theorem separate_empty : Separate empty :=
  ⟨Stuck.oneEach_empty, by simp [empty], by simp [empty]⟩

section

variable {t u : Traffic} {es : List Event} {e : Event}

theorem Alone.not_called (alone : t.Alone e) (l : Mount.Label) (g : Guard) : e ≠ .called l g := by
  rintro rfl
  exact alone

theorem Separate.step_free (h : Separate t) (alone : t.Alone e) (step : Step t e u) {i : Nat}
    {c' : Cycle} {l : Mount.Label} (cycle : u.cycles[i]? = some c')
    (waits : c'.pool.handing = some l) :
    ∀ call ∈ u.race.calls, call.path.same l.mountPoint = true → call.isOver = true := by
  rcases step_handing step cycle waits with ⟨c, was, earlier, untaken⟩ | ⟨rfl, unmarked⟩
  · refine over_of_step step alone.not_called (h.free i c l was earlier) ?_
    rintro j m rfl
    cases step with
    | take at_j handing _ =>
      have other : j ≠ i := fun same => untaken m (by rw [same])
      exact h.apart j i _ c m l other at_j was handing earlier
  · refine over_of_step step alone.not_called (fun call member same => ?_) (by simp)
    exact over_of_unmarked h.race unmarked member same (alone.2 call member same)

theorem Separate.step_apart (h : Separate t) (alone : t.Alone e) (step : Step t e u) {i j : Nat}
    {b' c' : Cycle} {l m : Mount.Label} (different : i ≠ j) (at_i : u.cycles[i]? = some b')
    (at_j : u.cycles[j]? = some c') (waits_i : b'.pool.handing = some l)
    (waits_j : c'.pool.handing = some m) : ¬ l.mountPoint.same m.mountPoint = true := by
  rcases step_handing step at_i waits_i with ⟨b, was_i, earlier_i, _⟩ | ⟨rfl, _⟩
  · rcases step_handing step at_j waits_j with ⟨c, was_j, earlier_j, _⟩ | ⟨rfl, _⟩
    · exact h.apart i j b c l m different was_i was_j earlier_i earlier_j
    · exact alone.1 i b l different was_i earlier_i
  · rcases step_handing step at_j waits_j with ⟨c, was_j, earlier_j, _⟩ | ⟨both, _⟩
    · exact fun same => alone.1 j c m (Ne.symm different) was_j earlier_j (Path.same_symm same)
    · injection both with same
      exact absurd same different

theorem Separate.step (h : Separate t) (alone : t.Alone e) (step : Step t e u) : Separate u where
  race := oneEach_of_step h.race step alone.not_called h.free
  free _ _ _ cycle waits := h.step_free alone step cycle waits
  apart _ _ _ _ _ _ different at_i at_j waits_i waits_j :=
    h.step_apart alone step different at_i at_j waits_i waits_j

theorem separate_of_run (run : RunAlone es t) : Separate t := by
  induction run with
  | start => exact separate_empty
  | step _ step alone ih => exact ih.step alone step

theorem RunAlone.countP_eq (run : RunAlone es t) (p : Path) :
    t.race.calls.countP (fun c => c.isLeftBehind && c.path.same p) =
      if t.race.registry.isStuck p then 1 else 0 := by
  obtain ⟨_, race⟩ := run.run.race
  exact (separate_of_run run).race.countP_eq (Stuck.explained_of_run race) p

end

end MountProbe.Traffic
