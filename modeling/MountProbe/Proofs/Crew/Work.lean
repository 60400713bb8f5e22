import MountProbe.Proofs.Crew.Books

namespace MountProbe.Crew

variable {ι τ : Type} {c d : Crew ι τ} {e : Event ι τ}

def workerWork : Worker ι τ → Nat
  | .gone => 0
  | .waiting => 1
  | .returning _ _ => 3
  | .working _ => 4

def dispatcherWork : Dispatcher ι τ → Nat
  | .hiring left => 2 * left + 4
  | .looking => 3
  | .handing _ => 7
  | .working _ => 6
  | .returning _ _ | .settling _ _ => 5
  | .closing => 2
  | .draining => 1
  | .done => 0

def workersWork : List (Worker ι τ) → Nat
  | [] => 0
  | w :: rest => workerWork w + workersWork rest

def work (c : Crew ι τ) : Nat :=
  dispatcherWork c.dispatcher + 5 * c.pending.length + workersWork c.workers + c.sent.length

theorem work_start (workers : Nat) (jobs : List ι) :
    work (start workers jobs : Crew ι τ) = 5 * jobs.length + 2 * max workers 1 + 4 := by
  simp only [work, start, dispatcherWork, workersWork, List.length_nil]
  omega

theorem workersWork_append (ws vs : List (Worker ι τ)) :
    workersWork (ws ++ vs) = workersWork ws + workersWork vs := by
  induction ws with
  | nil => simp [workersWork]
  | cons w rest ih =>
    simp only [List.cons_append, workersWork, ih]
    omega

theorem workersWork_set {ws : List (Worker ι τ)} {k : Nat} {w : Worker ι τ}
    (here : ws[k]? = some w) (w' : Worker ι τ) :
    workerWork w + workersWork (ws.set k w') = workerWork w' + workersWork ws := by
  induction ws generalizing k with
  | nil => cases here
  | cons v rest ih =>
    cases k with
    | zero =>
      cases Option.some.inj here
      simp only [List.set_cons_zero, workersWork]
      omega
    | succ k =>
      have later := ih here
      simp only [List.set_cons_succ, workersWork]
      omega

theorem Step.work_lt (step : Step c e d) : d.work < c.work := by
  cases step.move with
  | hired starts phase =>
    cases starts with
    | false => simp [work, phase, dispatcherWork]
    | true =>
      simp [work, phase, dispatcherWork, workersWork_append, workersWork, workerWork]
      omega
  | considered decision phase pending =>
    cases decision <;>
      simp only [work, phase, pending, dispatcherWork, Dispatcher.after, List.length_cons] <;> omega
  | @took k job waiting phase =>
    have changed := workersWork_set waiting (.working job)
    simp only [work, phase, dispatcherWork, workerWork] at changed ⊢
    omega
  | @came k job result working =>
    have changed := workersWork_set working (.returning job result)
    simp only [work, workerWork] at changed ⊢
    omega
  | gave returning =>
    have changed := workersWork_set returning .waiting
    simp only [work, workerWork, List.length_append, List.length_singleton] at changed ⊢
    omega
  | left waiting closed =>
    have changed := workersWork_set waiting .gone
    simp only [work, workerWork] at changed ⊢
    omega
  | collected phase sent =>
    simp only [work, sent, List.length_cons]
    omega
  | settled phase | gaveBack phase =>
    simp only [work, phase, dispatcherWork, List.length_append, List.length_singleton]
    omega
  | gathered phase | kept phase _ | cameBack _ phase | jobsClosed phase _ | resultsClosed phase
  | ended phase _ _ =>
    simp [work, phase, dispatcherWork]

theorem Run.work_le {es : List (Event ι τ)} (run : Run c es d) : es.length + d.work ≤ c.work := by
  induction run with
  | refl => simp
  | step _ step ih =>
    have less := step.work_lt
    rw [List.length_append, List.length_singleton]
    omega

theorem work?_isSome {k : Nat} {w : Worker ι τ} (process : ι → τ) (here : c.workers[k]? = some w)
    (stays : w.isGone = false)
    (free : c.dispatcher.offer?.isSome = true ∨ c.dispatcher.hasJobs = false) :
    (c.work? process k).isSome = true := by
  cases w with
  | gone => contradiction
  | working job | returning job result => simp [work?, here]
  | waiting =>
    simp only [work?, here]
    split
    · rfl
    · rename_i nothing_to_hand
      have closed : c.dispatcher.hasJobs = false := by
        refine free.resolve_left fun offers => ?_
        cases hd : c.dispatcher <;> simp_all [Dispatcher.offer?]
      simp [closed]

theorem next?_isSome_of_worker {w : Worker ι τ} (decide : ι → Decision ι τ) (process : ι → τ)
    (member : w ∈ c.workers) (stays : w.isGone = false)
    (free : c.dispatcher.offer?.isSome = true ∨ c.dispatcher.hasJobs = false) :
    (c.next? decide process).isSome = true := by
  obtain ⟨k, here⟩ := List.getElem?_of_mem member
  have in_range : k ∈ List.range c.workers.length :=
    List.mem_range.mpr (List.getElem?_eq_some_iff.mp here).1
  have moves : ((List.range c.workers.length).findSome? fun k => c.work? process k).isSome :=
    List.findSome?_isSome_iff.mpr ⟨k, in_range, work?_isSome process here stays free⟩
  simp [next?, Option.isSome_or, moves]

theorem next?_isSome (decide : ι → Decision ι τ) (process : ι → τ) (undone : c.isDone = false) :
    (c.next? decide process).isSome = true := by
  have of_dispatcher (h : (c.dispatch? true decide process).isSome = true) :
      (c.next? decide process).isSome = true := by
    simp [next?, Option.isSome_or, h]
  have of_worker (free : c.dispatcher.offer?.isSome = true ∨ c.dispatcher.hasJobs = false)
      (peopled : c.isDeserted = false) : (c.next? decide process).isSome = true := by
    obtain ⟨w, member, stays⟩ := List.all_eq_false.mp peopled
    exact next?_isSome_of_worker decide process member (Bool.eq_false_iff.mpr stays) free
  cases hd : c.dispatcher with
  | done => simp [isDone, hd] at undone
  | hiring left => cases left <;> exact of_dispatcher (by simp [dispatch?, hd])
  | looking => cases hp : c.pending <;> exact of_dispatcher (by simp [dispatch?, hd, hp])
  | working job | returning job result | settling job result | closing =>
    exact of_dispatcher (by simp [dispatch?, hd])
  | handing job =>
    cases peopled : c.isDeserted with
    | true => exact of_dispatcher (by simp [dispatch?, hd, peopled])
    | false => exact of_worker (.inl (by simp [hd, Dispatcher.offer?])) peopled
  | draining =>
    cases sent : c.sent with
    | cons result rest => exact of_dispatcher (by simp [dispatch?, hd, sent])
    | nil =>
      cases peopled : c.isDeserted with
      | true =>
        exact of_dispatcher
          (by simp [dispatch?, hd, sent, resultsEnded, Dispatcher.hasResults, peopled])
      | false => exact of_worker (.inr (by simp [hd, Dispatcher.hasJobs])) peopled

theorem obeys_of_dispatch {starts : Bool} {decide : ι → Decision ι τ} {process : ι → τ}
    (h : c.dispatch? starts decide process = some (e, d)) :
    e.Decides decide ∧ e.Returns process := by
  unfold dispatch? at h
  repeat' split at h
  all_goals first
    | contradiction
    | cases Option.some.inj h; exact ⟨trivial, trivial⟩
    | cases Option.some.inj h; exact ⟨rfl, trivial⟩
    | cases Option.some.inj h; exact ⟨trivial, rfl⟩

theorem obeys_of_work {process : ι → τ} {k : Nat} (h : c.work? process k = some (e, d))
    (decide : ι → Decision ι τ) : e.Decides decide ∧ e.Returns process := by
  unfold work? at h
  repeat' split at h
  all_goals first
    | contradiction
    | cases Option.some.inj h; exact ⟨trivial, trivial⟩
    | cases Option.some.inj h; exact ⟨trivial, rfl⟩

theorem step_of_next? {decide : ι → Decision ι τ} {process : ι → τ}
    (h : c.next? decide process = some (e, d)) :
    Step c e d ∧ e.Decides decide ∧ e.Returns process := by
  rcases Option.or_eq_some_iff.mp h with dispatched | ⟨-, worked⟩
  · exact ⟨.dispatcher _ _ _ dispatched, obeys_of_dispatch dispatched⟩
  · obtain ⟨k, -, here⟩ := List.exists_of_findSome?_eq_some worked
    exact ⟨.worker _ k here, obeys_of_work here decide⟩

theorem exists_step (decide : ι → Decision ι τ) (process : ι → τ) (undone : c.isDone = false) :
    ∃ e d, Step c e d ∧ e.Decides decide ∧ e.Returns process := by
  obtain ⟨⟨e, d⟩, next⟩ := Option.isSome_iff_exists.mp (next?_isSome decide process undone)
  exact ⟨e, d, step_of_next? next⟩

theorem Run.cons {b : Crew ι τ} {es : List (Event ι τ)} (step : Step b e c) (run : Run c es d) :
    Run b (e :: es) d := by
  induction run with
  | refl => exact .step (.refl b) step
  | step _ later ih => exact .step ih later

theorem drive_run (decide : ι → Decision ι τ) (process : ι → τ) (n : Nat) (c : Crew ι τ) :
    ∃ es, Run c es (drive decide process n c) ∧
      ∀ e ∈ es, e.Decides decide ∧ e.Returns process := by
  induction n generalizing c with
  | zero => exact ⟨[], .refl c, by simp⟩
  | succ n ih =>
    unfold drive
    split
    · rename_i e d next
      obtain ⟨step, obeys⟩ := step_of_next? next
      obtain ⟨es, run, all⟩ := ih d
      exact ⟨e :: es, run.cons step, List.forall_mem_cons.mpr ⟨obeys, all⟩⟩
    · exact ⟨[], .refl c, by simp⟩

theorem drive_isDone (decide : ι → Decision ι τ) (process : ι → τ) {n : Nat} {c : Crew ι τ}
    (enough : c.work ≤ n) : (drive decide process n c).isDone = true := by
  induction n generalizing c with
  | zero =>
    cases hd : c.dispatcher <;> simp [work, hd, dispatcherWork] at enough
    simp [drive, isDone, hd]
  | succ n ih =>
    unfold drive
    split
    · rename_i e d next
      have less := (step_of_next? next).1.work_lt
      exact ih (by omega)
    · rename_i stands
      refine Bool.of_not_eq_false fun undone => ?_
      have moves := next?_isSome decide process undone
      rw [stands] at moves
      contradiction

end MountProbe.Crew
