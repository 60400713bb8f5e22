import MountProbe.Proofs.Pool.Steps

namespace MountProbe.Pool

variable {ι τ : Type}

/-- The jobs that the dispatcher has looked at, in order, and its verdicts. -/
def admitted (es : List (Event ι τ)) : List (ι × Admission τ) :=
  es.filterMap fun
    | .considered job verdict => some (job, verdict)
    | _ => none

def taken (es : List (Event ι τ)) : List ι :=
  es.filterMap fun
    | .took job => some job
    | _ => none

def finished (es : List (Event ι τ)) : List (ι × τ) :=
  es.filterMap fun
    | .finished job result => some (job, result)
    | _ => none

def sent (es : List (Event ι τ)) : List τ :=
  es.filterMap fun
    | .considered _ (.resolved result) => some result
    | .finished _ result => some result
    | _ => none

/-- Where the jobs of a pool are. -/
structure Books (jobs : List ι) (es : List (Event ι τ)) (p : Pool ι τ) : Prop where
  looked_at : (admitted es).map Prod.fst ++ p.pending = jobs
  handed : taken es ++ p.handing.toList = (admitted es).filterMap dispatchedOf
  at_work : (taken es).Perm ((finished es).map Prod.fst ++ p.busy)
  on_the_way : p.results ++ p.ready = sent es

theorem books_start (workers : Nat) (jobs : List ι) :
    Books jobs [] (start workers jobs : Pool ι τ) := by
  constructor <;> simp [start, admitted, taken, finished, sent, results]

theorem sent_perm (es : List (Event ι τ)) :
    (sent es).Perm ((admitted es).filterMap resolvedOf ++ (finished es).map Prod.snd) := by
  induction es with
  | nil => exact .refl []
  | cons e es ih =>
    cases e with
    | considered job verdict =>
      cases verdict <;>
        simpa [sent, admitted, finished, List.filterMap_cons, resolvedOf] using ih
    | finished job result =>
      simp only [sent, admitted, finished, List.filterMap_cons, List.map_cons] at ih ⊢
      exact (ih.cons result).trans List.perm_middle.symm
    | took job => simpa [sent, admitted, finished] using ih
    | collected result => simpa [sent, admitted, finished] using ih

theorem Books.of_isDone {jobs : List ι} {es : List (Event ι τ)} {p : Pool ι τ}
    (h : Books jobs es p) (done : p.isDone = true) :
    (admitted es).map Prod.fst = jobs ∧ taken es = (admitted es).filterMap dispatchedOf ∧
      (taken es).Perm ((finished es).map Prod.fst) ∧
      p.results.Perm ((admitted es).filterMap resolvedOf ++ (finished es).map Prod.snd) := by
  obtain ⟨pending, handing, busy, ready⟩ := isDone_iff.mp done
  obtain ⟨looked_at, handed, at_work, on_the_way⟩ := h
  refine ⟨by simpa [pending] using looked_at, by simpa [handing] using handed,
    by simpa [busy] using at_work, ?_⟩
  rw [ready, List.append_nil] at on_the_way
  rw [on_the_way]
  exact sent_perm es

variable [DecidableEq ι]

theorem Step.upcoming_sublist {p q : Pool ι τ} {e : Event ι τ} (step : Step p e q) :
    (taken [e] ++ (q.handing.toList ++ q.pending)).Sublist
      (p.handing.toList ++ p.pending) := by
  cases step with
  | @consider _ _ verdict _ looked =>
    obtain ⟨job, rest, idle, pending, _, rfl⟩ := consider_eq_some looked
    cases verdict <;> simp [idle, pending, dispatchedOf, taken]
  | take waits took =>
    obtain ⟨job, handing, _, rfl⟩ := take_eq_some took
    cases Option.some.inj (waits.symm.trans handing)
    simp [handing, taken]
  | finish done =>
    obtain ⟨_, rfl⟩ := finish_eq_some done
    simp [taken]
  | collect _ arrived =>
    obtain ⟨_, _, _, _, _, rfl⟩ := collect_eq_some arrived
    simp [taken]

theorem Books.step {jobs : List ι} {es : List (Event ι τ)} {p q : Pool ι τ} {e : Event ι τ}
    (h : Books jobs es p) (step : Step p e q) : Books jobs (es ++ [e]) q := by
  obtain ⟨looked_at, handed, at_work, on_the_way⟩ := h
  cases step with
  | @consider _ job verdict next looked =>
    obtain ⟨job', rest, idle, pending, next', rfl⟩ := consider_eq_some looked
    cases Option.some.inj (next.symm.trans next')
    rw [idle, Option.toList_none, List.append_nil] at handed
    constructor
    · simpa [admitted, pending] using looked_at
    · cases verdict <;> simpa [admitted, taken, List.filterMap_cons, dispatchedOf] using handed
    · simpa [taken, finished] using at_work
    · rw [results] at on_the_way ⊢
      cases verdict <;> simp [sent, resolvedOf, on_the_way, ← List.append_assoc]
  | @take _ job handing took =>
    obtain ⟨job', handing', free, rfl⟩ := take_eq_some took
    cases Option.some.inj (handing.symm.trans handing')
    constructor
    · simpa [admitted] using looked_at
    · simpa [admitted, taken, handing] using handed
    · simp only [taken, finished, List.filterMap_append, List.filterMap_cons, List.filterMap_nil,
        List.append_nil, ← List.append_assoc]
      exact at_work.append_right [job]
    · simpa [sent, results] using on_the_way
  | @finish _ job result done =>
    obtain ⟨busy, rfl⟩ := finish_eq_some done
    constructor
    · simpa [admitted] using looked_at
    · simpa [admitted, taken] using handed
    · simp only [taken, finished, List.filterMap_append, List.filterMap_cons, List.filterMap_nil,
        List.append_nil, List.map_append, List.map_cons, List.map_nil, List.append_assoc]
      exact at_work.trans ((List.perm_cons_erase busy).append_left _)
    · rw [results] at on_the_way ⊢
      simp [sent, on_the_way, ← List.append_assoc]
  | @collect _ result ready arrived =>
    obtain ⟨result', rest, _, _, ready', rfl⟩ := collect_eq_some arrived
    constructor
    · simpa [admitted] using looked_at
    · simpa [admitted, taken] using handed
    · simpa [taken, finished] using at_work
    · simpa [sent, results, ready'] using on_the_way

theorem books_run {workers : Nat} {jobs : List ι} {es : List (Event ι τ)} {p : Pool ι τ}
    (run : Run (start workers jobs) es p) : Books jobs es p := by
  induction run with
  | refl => exact books_start workers jobs
  | step _ step ih => exact ih.step step

end MountProbe.Pool
