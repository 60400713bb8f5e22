import MountProbe.Pool.Crew

namespace MountProbe.Crew

variable {ι τ : Type} {c d : Crew ι τ} {e : Event ι τ}

/-- Everything that a thread can do, when it can, and what the crew is then. -/
inductive Move (c : Crew ι τ) : Event ι τ → Crew ι τ → Prop where
  | hired {left : Nat} (starts : Bool) (hiring : c.dispatcher = .hiring (left + 1)) :
    Move c (.hired starts) { c with
      dispatcher := .hiring left
      workers := if starts then c.workers ++ [.waiting] else c.workers }
  | gathered (hiring : c.dispatcher = .hiring 0) :
    Move c .gathered { c with dispatcher := .looking }
  | considered {job : ι} {rest : List ι} (decision : Decision ι τ)
    (looking : c.dispatcher = .looking) (pending : c.pending = job :: rest) :
    Move c (.considered job decision)
      { c with dispatcher := .after job decision, pending := rest }
  | settled {job : ι} {result : τ} (settling : c.dispatcher = .settling job result) :
    Move c (.settled job result)
      { c with dispatcher := .looking, sent := c.sent ++ [result] }
  | kept {job : ι} (handing : c.dispatcher = .handing job) (deserted : c.isDeserted = true) :
    Move c (.took none job) { c with dispatcher := .working job }
  | cameBack {job : ι} (result : τ) (working : c.dispatcher = .working job) :
    Move c (.came none job result) { c with dispatcher := .returning job result }
  | gaveBack {job : ι} {result : τ} (returning : c.dispatcher = .returning job result) :
    Move c (.gave none job result)
      { c with dispatcher := .looking, sent := c.sent ++ [result] }
  | jobsClosed (looking : c.dispatcher = .looking) (pending : c.pending = []) :
    Move c .jobsClosed { c with dispatcher := .closing }
  | resultsClosed (closing : c.dispatcher = .closing) :
    Move c .resultsClosed { c with dispatcher := .draining }
  | collected {result : τ} {rest : List τ} (draining : c.dispatcher = .draining)
    (sent : c.sent = result :: rest) :
    Move c (.collected result) { c with sent := rest, collected := result :: c.collected }
  | ended (draining : c.dispatcher = .draining) (sent : c.sent = [])
    (deserted : c.isDeserted = true) : Move c .ended { c with dispatcher := .done }
  | took {k : Nat} {job : ι} (waiting : c.workers[k]? = some .waiting)
    (handing : c.dispatcher = .handing job) :
    Move c (.took (some k) job)
      { c with dispatcher := .looking, workers := c.workers.set k (.working job) }
  | came {k : Nat} {job : ι} (result : τ) (working : c.workers[k]? = some (.working job)) :
    Move c (.came (some k) job result)
      { c with workers := c.workers.set k (.returning job result) }
  | gave {k : Nat} {job : ι} {result : τ}
    (returning : c.workers[k]? = some (.returning job result)) :
    Move c (.gave (some k) job result)
      { c with workers := c.workers.set k .waiting, sent := c.sent ++ [result] }
  | left {k : Nat} (waiting : c.workers[k]? = some .waiting)
    (ended : c.dispatcher.hasJobs = false) :
    Move c (.left k) { c with workers := c.workers.set k .gone }

theorem move_of_dispatch {starts : Bool} {decide : ι → Decision ι τ} {process : ι → τ}
    (h : c.dispatch? starts decide process = some (e, d)) : Move c e d := by
  unfold dispatch? at h
  split at h
  · rename_i hiring
    cases Option.some.inj h
    exact .gathered hiring
  · rename_i left hiring
    cases Option.some.inj h
    exact .hired starts hiring
  · rename_i looking
    split at h
    · rename_i pending
      cases Option.some.inj h
      exact .jobsClosed looking pending
    · rename_i job rest pending
      cases Option.some.inj h
      exact .considered _ looking pending
  · rename_i job handing
    split at h
    · rename_i deserted
      cases Option.some.inj h
      exact .kept handing deserted
    · contradiction
  · rename_i job working
    cases Option.some.inj h
    exact .cameBack _ working
  · rename_i job result returning
    cases Option.some.inj h
    exact .gaveBack returning
  · rename_i job result settling
    cases Option.some.inj h
    exact .settled settling
  · rename_i closing
    cases Option.some.inj h
    exact .resultsClosed closing
  · rename_i draining
    split at h
    · rename_i result rest sent
      cases Option.some.inj h
      exact .collected draining sent
    · rename_i sent
      split at h
      · rename_i ended
        cases Option.some.inj h
        refine .ended draining sent ?_
        simpa [resultsEnded, draining, Dispatcher.hasResults] using ended
      · contradiction
  · contradiction

theorem move_of_work {process : ι → τ} {k : Nat} (h : c.work? process k = some (e, d)) :
    Move c e d := by
  unfold work? at h
  split at h
  · rename_i waiting
    split at h
    · rename_i job handing
      cases Option.some.inj h
      exact .took waiting handing
    · split at h
      · contradiction
      · rename_i ended
        cases Option.some.inj h
        exact .left waiting (Bool.eq_false_iff.mpr ended)
  · rename_i job working
    cases Option.some.inj h
    exact .came _ working
  · rename_i job result returning
    cases Option.some.inj h
    exact .gave returning
  · contradiction

theorem Step.move (step : Step c e d) : Move c e d := by
  cases step with
  | dispatcher starts decide process h => exact move_of_dispatch h
  | worker process k h => exact move_of_work h

theorem dispatcher_of_isDone (done : c.isDone = true) : c.dispatcher = .done := by
  cases hd : c.dispatcher <;> simp_all [isDone]

/-- How many workers are still to be started. -/
def toHire (c : Crew ι τ) : Nat :=
  match c.dispatcher with
  | .hiring left => left
  | _ => 0

/-- What is so in every crew that was to have so many workers. -/
structure Sound (n : Nat) (c : Crew ι τ) : Prop where
  few : c.workers.length + c.toHire ≤ n
  alone : ∀ job, c.dispatcher.job? = some job → c.workers = []
  staying : c.dispatcher.hasJobs = true → ∀ w ∈ c.workers, w.isGone = false
  looked_at : c.dispatcher.hasJobs = false → c.pending = []
  ended : c.isDone = true → c.sent = [] ∧ c.isDeserted = true

theorem sound_start (workers : Nat) (jobs : List ι) :
    Sound (max workers 1) (start workers jobs : Crew ι τ) := by
  constructor <;> simp [start, toHire, Dispatcher.hasJobs, Dispatcher.job?, isDone]

theorem Sound.deserted {n : Nat} (h : Sound n c) (jobs : c.dispatcher.hasJobs = true)
    (deserted : c.isDeserted = true) : c.workers = [] := by
  rw [List.eq_nil_iff_forall_not_mem]
  intro w member
  have gone := List.all_eq_true.mp deserted w member
  rw [h.staying jobs w member] at gone
  contradiction

theorem Sound.not_isDone {n k : Nat} {w : Worker ι τ} (h : Sound n c)
    (here : c.workers[k]? = some w) (stays : w.isGone = false) : c.isDone = false := by
  rw [Bool.eq_false_iff]
  intro done
  have gone := List.all_eq_true.mp (h.ended done).2 w (List.mem_of_getElem? here)
  rw [stays] at gone
  contradiction

theorem step_few {n : Nat} (few : c.workers.length + c.toHire ≤ n) (step : Step c e d) :
    d.workers.length + d.toHire ≤ n := by
  cases step.move with
  | hired starts phase =>
    simp only [toHire, phase] at few
    cases starts <;> simp [toHire] <;> omega
  | considered decision phase _ =>
    cases decision <;> simpa [toHire, phase, Dispatcher.after] using few
  | collected _ _ => exact few
  | came _ _ | gave _ | left _ _ => simpa [toHire] using few
  | gathered phase | settled phase | kept phase _ | cameBack _ phase | gaveBack phase
  | jobsClosed phase _ | resultsClosed phase | ended phase _ _ | took _ phase =>
    simpa [toHire, phase] using few

theorem step_alone {n : Nat} (h : Sound n c) (step : Step c e d) {job : ι}
    (busy : d.dispatcher.job? = some job) : d.workers = [] := by
  cases step.move with
  | kept phase deserted => exact h.deserted (by simp [phase, Dispatcher.hasJobs]) deserted
  | @cameBack own _ phase => exact h.alone own (by simp [phase, Dispatcher.job?])
  | collected _ _ => exact h.alone job busy
  | came _ _ | gave _ | left _ _ => simp [h.alone job busy]
  | considered decision _ _ => cases decision <;> cases busy
  | _ => cases busy

theorem isGone_of_mem_set {k : Nat} {w : Worker ι τ} (stays : w.isGone = false)
    (all : ∀ w ∈ c.workers, w.isGone = false) : ∀ v ∈ c.workers.set k w, v.isGone = false := by
  intro v member
  rcases List.mem_or_eq_of_mem_set member with before | rfl
  · exact all v before
  · exact stays

theorem step_staying {n : Nat} (h : Sound n c) (step : Step c e d)
    (jobs : d.dispatcher.hasJobs = true) : ∀ w ∈ d.workers, w.isGone = false := by
  cases step.move with
  | hired starts phase =>
    have before := h.staying (by simp [phase, Dispatcher.hasJobs])
    cases starts with
    | false => exact before
    | true => exact List.forall_mem_append.mpr ⟨before, by simp [Worker.isGone]⟩
  | took _ phase =>
    exact isGone_of_mem_set rfl (h.staying (by simp [phase, Dispatcher.hasJobs]))
  | came _ _ | gave _ => exact isGone_of_mem_set rfl (h.staying jobs)
  | left _ closed =>
    rw [closed] at jobs
    contradiction
  | collected _ _ => exact h.staying jobs
  | jobsClosed _ _ | resultsClosed _ | ended _ _ _ => cases jobs
  | gathered phase | considered _ phase _ | settled phase | kept phase _ | cameBack _ phase
  | gaveBack phase =>
    exact h.staying (by simp [phase, Dispatcher.hasJobs])

theorem step_nothing_pending {n : Nat} (h : Sound n c) (step : Step c e d)
    (closed : d.dispatcher.hasJobs = false) : d.pending = [] := by
  cases step.move with
  | jobsClosed _ pending => exact pending
  | resultsClosed phase | ended phase _ _ =>
    exact h.looked_at (by simp [phase, Dispatcher.hasJobs])
  | collected _ _ | came _ _ | gave _ | left _ _ => exact h.looked_at closed
  | considered decision _ _ => cases decision <;> cases closed
  | _ => cases closed

theorem step_ended {n : Nat} (h : Sound n c) (step : Step c e d) (done : d.isDone = true) :
    d.sent = [] ∧ d.isDeserted = true := by
  have at_work {k : Nat} {w : Worker ι τ} (here : c.workers[k]? = some w)
      (stays : w.isGone = false) (same : c.isDone = true) : False := by
    rw [h.not_isDone here stays] at same
    contradiction
  cases step.move with
  | ended _ sent deserted => exact ⟨sent, deserted⟩
  | collected phase _ => simp [isDone, phase] at done
  | came _ working => exact (at_work working rfl done).elim
  | gave returning => exact (at_work returning rfl done).elim
  | left waiting _ => exact (at_work waiting rfl done).elim
  | considered decision _ _ => cases decision <;> cases done
  | _ => cases done

theorem Sound.step {n : Nat} (h : Sound n c) (step : Step c e d) : Sound n d where
  few := step_few h.few step
  alone _ busy := step_alone h step busy
  staying jobs := step_staying h step jobs
  looked_at closed := step_nothing_pending h step closed
  ended done := step_ended h step done

theorem sound_run {n : Nat} {es : List (Event ι τ)} (h : Sound n c) (run : Run c es d) :
    Sound n d := by
  induction run with
  | refl => exact h
  | step _ step ih => exact ih.step step

theorem Sound.running_le {n : Nat} (h : Sound n c) (one : 0 < n) : c.running ≤ n := by
  unfold running
  split
  · rename_i working
    obtain ⟨job, here⟩ : ∃ job, c.dispatcher.job? = some job := by
      cases hd : c.dispatcher <;> simp_all [Dispatcher.isWorking, Dispatcher.job?]
    rw [h.alone job here]
    exact one
  · have some_of_them := List.countP_le_length (p := Worker.isWorking) (l := c.workers)
    have few := h.few
    omega

theorem Sound.quiet {n : Nat} (h : Sound n c) (done : c.isDone = true) : c.running = 0 := by
  have idle : c.workers.countP Worker.isWorking = 0 := by
    rw [List.countP_eq_zero]
    intro w member
    have gone := List.all_eq_true.mp (h.ended done).2 w member
    cases w <;> simp_all [Worker.isGone, Worker.isWorking]
  simp [running, idle, dispatcher_of_isDone done, Dispatcher.isWorking]

end MountProbe.Crew
