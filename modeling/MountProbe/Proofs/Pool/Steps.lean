import MountProbe.Pool

namespace MountProbe.Pool

variable {ι τ : Type}

def dispatchedOf : ι × Admission τ → Option ι
  | (job, .dispatch) => some job
  | _ => none

def resolvedOf : ι × Admission τ → Option τ
  | (_, .resolved result) => some result
  | _ => none

theorem consider_eq_some {p q : Pool ι τ} {verdict : Admission τ}
    (h : p.consider verdict = some q) :
    ∃ job rest, p.handing = none ∧ p.pending = job :: rest ∧ p.next? = some job ∧
      q = { p with
        pending := rest
        handing := dispatchedOf (job, verdict)
        ready := p.ready ++ (resolvedOf (job, verdict)).toList } := by
  unfold consider at h
  split at h
  · rename_i job rest idle pending
    refine ⟨job, rest, idle, pending, by simp [next?, idle, pending], ?_⟩
    cases verdict <;> cases Option.some.inj h <;> simp [dispatchedOf, resolvedOf, idle]
  · contradiction

theorem take_eq_some {p q : Pool ι τ} (h : p.take = some q) :
    ∃ job, p.handing = some job ∧ p.busy.length < p.workers ∧
      q = { p with handing := none, busy := p.busy ++ [job] } := by
  unfold take at h
  split at h
  · rename_i job handing
    split at h
    · rename_i free
      exact ⟨job, handing, free, (Option.some.inj h).symm⟩
    · contradiction
  · contradiction

theorem collect_eq_some {p q : Pool ι τ} (h : p.collect = some q) :
    ∃ result rest, p.pending = [] ∧ p.handing = none ∧ p.ready = result :: rest ∧
      q = { p with ready := rest, collected := result :: p.collected } := by
  unfold collect at h
  split at h
  · rename_i result rest pending handing ready
    exact ⟨result, rest, pending, handing, ready, (Option.some.inj h).symm⟩
  · contradiction

theorem isDone_iff {p : Pool ι τ} :
    p.isDone = true ↔ p.pending = [] ∧ p.handing = none ∧ p.busy = [] ∧ p.ready = [] := by
  simp [isDone, and_assoc]

variable [DecidableEq ι]

theorem finish_eq_some {p q : Pool ι τ} {job : ι} {result : τ}
    (h : p.finish job result = some q) :
    job ∈ p.busy ∧ q = { p with busy := p.busy.erase job, ready := p.ready ++ [result] } := by
  unfold finish at h
  split at h
  · rename_i busy
    exact ⟨busy, (Option.some.inj h).symm⟩
  · contradiction

theorem Step.not_isDone {p q : Pool ι τ} {e : Event ι τ} (step : Step p e q) :
    p.isDone = false := by
  rw [Bool.eq_false_iff]
  intro done
  obtain ⟨pending, handing, busy, ready⟩ := isDone_iff.mp done
  cases step with
  | consider next _ => simp [next?, handing, pending] at next
  | take waits _ => simp [handing] at waits
  | finish finished => simpa [busy] using (finish_eq_some finished).1
  | collect arrives _ => simp [ready] at arrives

theorem Run.append {p q r : Pool ι τ} {es fs : List (Event ι τ)} (first : Run p es q)
    (last : Run q fs r) : Run p (es ++ fs) r := by
  induction last with
  | refl => rwa [List.append_nil]
  | step _ step ih => exact List.append_assoc .. ▸ .step ih step

theorem Step.workers_eq {p q : Pool ι τ} {e : Event ι τ} (step : Step p e q) :
    q.workers = p.workers := by
  cases step with
  | consider _ looked =>
    obtain ⟨_, _, _, _, _, rfl⟩ := consider_eq_some looked
    rfl
  | take _ took =>
    obtain ⟨_, _, _, rfl⟩ := take_eq_some took
    rfl
  | finish done =>
    obtain ⟨_, rfl⟩ := finish_eq_some done
    rfl
  | collect _ arrived =>
    obtain ⟨_, _, _, _, _, rfl⟩ := collect_eq_some arrived
    rfl

theorem Run.workers_eq {p q : Pool ι τ} {es : List (Event ι τ)} (run : Run p es q) :
    q.workers = p.workers := by
  induction run with
  | refl => rfl
  | step _ step ih => exact step.workers_eq.trans ih

theorem Step.busy {p q : Pool ι τ} {e : Event ι τ} {job : ι} (step : Step p e q)
    (busy : job ∈ p.busy) : job ∈ q.busy ∨ ∃ result, e = .finished job result := by
  cases step with
  | consider _ looked =>
    obtain ⟨_, _, _, _, _, rfl⟩ := consider_eq_some looked
    exact .inl busy
  | take _ took =>
    obtain ⟨_, _, _, rfl⟩ := take_eq_some took
    exact .inl (List.mem_append_left _ busy)
  | @finish _ other result done =>
    obtain ⟨_, rfl⟩ := finish_eq_some done
    by_cases same : job = other
    · exact .inr ⟨result, by rw [same]⟩
    · exact .inl ((List.mem_erase_of_ne same).mpr busy)
  | collect _ arrived =>
    obtain ⟨_, _, _, _, _, rfl⟩ := collect_eq_some arrived
    exact .inl busy

theorem Step.of_busy {p q : Pool ι τ} {e : Event ι τ} {job : ι} (step : Step p e q)
    (busy : job ∈ q.busy) : job ∈ p.busy ∨ e = .took job := by
  cases step with
  | consider _ looked =>
    obtain ⟨_, _, _, _, _, rfl⟩ := consider_eq_some looked
    exact .inl busy
  | take waits took =>
    obtain ⟨_, handing, _, rfl⟩ := take_eq_some took
    cases Option.some.inj (waits.symm.trans handing)
    rcases List.mem_append.mp busy with before | now
    · exact .inl before
    · exact .inr (by rw [List.mem_singleton.mp now])
  | finish done =>
    obtain ⟨_, rfl⟩ := finish_eq_some done
    exact .inl (List.mem_of_mem_erase busy)
  | collect _ arrived =>
    obtain ⟨_, _, _, _, _, rfl⟩ := collect_eq_some arrived
    exact .inl busy

theorem Step.busy_of_took {p q : Pool ι τ} {job : ι} (step : Step p (.took job) q) :
    job ∈ q.busy ∧ q.handing = none := by
  cases step with
  | take waits took =>
    obtain ⟨_, handing, _, rfl⟩ := take_eq_some took
    cases Option.some.inj (waits.symm.trans handing)
    simp

theorem Step.handing {p q : Pool ι τ} {e : Event ι τ} {job : ι} (step : Step p e q)
    (waits : q.handing = some job) : p.handing = some job ∨ e = .considered job .dispatch := by
  cases step with
  | @consider _ _ verdict next looked =>
    obtain ⟨other, rest, idle, pending, next', rfl⟩ := consider_eq_some looked
    cases Option.some.inj (next.symm.trans next')
    cases verdict <;> simp_all [dispatchedOf]
  | take _ took =>
    obtain ⟨_, _, _, rfl⟩ := take_eq_some took
    cases waits
  | finish done =>
    obtain ⟨_, rfl⟩ := finish_eq_some done
    exact .inl waits
  | collect _ arrived =>
    obtain ⟨_, _, _, _, _, rfl⟩ := collect_eq_some arrived
    exact .inl waits

end MountProbe.Pool
