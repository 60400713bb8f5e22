import MountProbe.Proofs.Pool.Books

namespace MountProbe.Pool

variable {ι τ : Type}

def work (p : Pool ι τ) : Nat :=
  4 * p.pending.length + 3 * p.handing.toList.length + 2 * p.busy.length + p.ready.length

/-- What is still to come of the jobs of a pool, apart from calls that workers have started. -/
def due (p : Pool ι τ) : Nat :=
  5 * p.pending.length + 4 * p.handing.toList.length + p.busy.length + p.ready.length

/-- What a pool can do next: look at a job, hand one over, see one come back, or take a result. -/
inductive Next (p : Pool ι τ) : Prop where
  | consider {job : ι} (next : p.next? = some job) (looks : ∀ v, (p.consider v).isSome = true)
  | take {job : ι} (waits : p.handing = some job) (free : p.take.isSome = true)
  | finish {job : ι} (busy : job ∈ p.busy)
  | collect {result : τ} (ready : p.ready.head? = some result) (arrives : p.collect.isSome = true)

theorem next_of_not_isDone {p : Pool ι τ} (staffed : 0 < p.workers) (open_jobs : p.isDone = false) :
    Next p := by
  cases hb : p.busy with
  | cons job others => exact .finish (hb ▸ List.mem_cons_self)
  | nil =>
    cases hh : p.handing with
    | some job => exact .take hh (by simp [take, hh, hb, staffed])
    | none =>
      cases hp : p.pending with
      | cons job rest =>
        have next : p.next? = some job := by simp [next?, hh, hp]
        refine .consider next fun verdict => ?_
        cases verdict <;> simp [consider, hh, hp]
      | nil =>
        cases hr : p.ready with
        | cons result rest =>
          have ready : p.ready.head? = some result := by simp [hr]
          exact .collect ready (by simp [collect, hh, hp, hr])
        | nil => simp [isDone, hb, hh, hp, hr] at open_jobs

variable [DecidableEq ι]

theorem Step.work_lt {p q : Pool ι τ} {e : Event ι τ} (step : Step p e q) : q.work < p.work := by
  cases step with
  | @consider _ _ verdict _ looked =>
    obtain ⟨job, rest, idle, pending, _, rfl⟩ := consider_eq_some looked
    cases verdict <;>
      simp only [work, idle, pending, dispatchedOf, resolvedOf, List.length_cons,
        List.length_append, Option.toList_some, Option.toList_none, List.length_nil] <;> omega
  | take _ took =>
    obtain ⟨job, handing, _, rfl⟩ := take_eq_some took
    simp only [work, handing, List.length_append, Option.toList_some, Option.toList_none,
      List.length_cons, List.length_nil]
    omega
  | @finish _ job _ done =>
    obtain ⟨busy, rfl⟩ := finish_eq_some done
    have fewer := List.length_erase_of_mem busy
    have some_busy := List.length_pos_of_mem busy
    simp only [work, fewer, List.length_append, List.length_cons, List.length_nil]
    omega
  | collect _ arrived =>
    obtain ⟨result, rest, _, _, ready, rfl⟩ := collect_eq_some arrived
    simp only [work, ready, List.length_cons]
    omega

theorem Step.due_lt {p q : Pool ι τ} {e : Event ι τ} (step : Step p e q)
    (unfinished : ∀ job result, e ≠ .finished job result) :
    q.due + 2 * (taken [e]).length < p.due := by
  cases step with
  | @consider _ _ verdict _ looked =>
    obtain ⟨job, rest, idle, pending, _, rfl⟩ := consider_eq_some looked
    cases verdict <;>
      simp [due, taken, idle, pending, dispatchedOf, resolvedOf] <;> omega
  | take waits took =>
    obtain ⟨job, handing, _, rfl⟩ := take_eq_some took
    simp [due, taken, handing]
    omega
  | finish _ => exact absurd rfl (unfinished _ _)
  | collect _ arrived =>
    obtain ⟨result, rest, _, _, ready, rfl⟩ := collect_eq_some arrived
    simp [due, taken, ready]

theorem due_of_finish {p q : Pool ι τ} {job : ι} {result : τ} (h : p.finish job result = some q) :
    q.due = p.due := by
  obtain ⟨busy, rfl⟩ := finish_eq_some h
  have fewer := List.length_erase_of_mem busy
  have some_busy := List.length_pos_of_mem busy
  simp only [due, fewer, List.length_append, List.length_cons, List.length_nil]
  omega

end MountProbe.Pool
