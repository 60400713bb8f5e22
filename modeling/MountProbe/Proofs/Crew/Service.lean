import MountProbe.Proofs.Crew.Work
import Mathlib.Data.List.Basic

/-! What a crew returns. When its run is over, each job was looked at in order, what was handed
over was done once, and the results are those of the jobs done and of the jobs settled. -/
namespace MountProbe

/-- What a decision comes to, once the job that it hands over is done. -/
def Decision.outcome? {ι τ : Type} (process : ι → τ) : Decision ι τ → Option τ
  | handOver job => some (process job)
  | settle result => some result
  | skip => none

theorem Decision.outcomes_perm {ι τ : Type} (process : ι → τ) (decisions : List (Decision ι τ)) :
    (decisions.filterMap (·.result?) ++ (decisions.filterMap (·.job?)).map process).Perm
      (decisions.filterMap (·.outcome? process)) := by
  induction decisions with
  | nil => exact .refl _
  | cons decision rest ih =>
    cases decision with
    | handOver job => exact List.perm_middle.trans (ih.cons _)
    | settle result => exact ih.cons _
    | skip => exact ih

namespace Crew

variable {ι τ : Type} {c d : Crew ι τ} {e : Event ι τ} {es : List (Event ι τ)}
  {workers : Nat} {jobs : List ι} {process : ι → τ}

/-- Results that are kept for a job are those of the job. -/
structure Faithful (process : ι → τ) (es : List (Event ι τ)) (c : Crew ι τ) : Prop where
  worker : ∀ job result, .returning job result ∈ c.workers → result = process job
  dispatcher : ∀ job result, c.dispatcher = .returning job result → result = process job
  done : ∀ job result, (job, result) ∈ given es → result = process job

theorem faithful_start (workers : Nat) (jobs : List ι) (process : ι → τ) :
    Faithful process [] (start workers jobs) := by
  constructor <;> simp [start, given]

theorem Faithful.set (h : Faithful process es c) (k : Nat) {w : Worker ι τ}
    (own : ∀ job result, w = .returning job result → result = process job) :
    ∀ job result, .returning job result ∈ c.workers.set k w → result = process job := by
  intro job result member
  rcases List.mem_or_eq_of_mem_set member with old | new
  · exact h.worker job result old
  · exact own job result new.symm

theorem Faithful.keep (h : Faithful process es c) (nothing : given [e] = []) :
    ∀ job result, (job, result) ∈ given (es ++ [e]) → result = process job := by
  rw [given_append, nothing, List.append_nil]
  exact h.done

theorem Faithful.give (h : Faithful process es c) {worker : Option Nat} {job : ι} {result : τ}
    (own : result = process job) :
    ∀ job' result', (job', result') ∈ given (es ++ [.gave worker job result]) →
      result' = process job' := by
  intro job' result' member
  rw [given_append] at member
  rcases List.mem_append.mp member with old | new
  · exact h.done job' result' old
  · cases List.mem_singleton.mp new
    exact own

theorem Faithful.step (h : Faithful process es c) (step : Step c e d)
    (returns : e.Returns process) : Faithful process (es ++ [e]) d := by
  cases step.move with
  | hired starts phase =>
    refine ⟨fun job result member => h.worker job result ?_, by simp, h.keep rfl⟩
    cases starts <;> simpa using member
  | considered decision phase pending =>
    refine ⟨h.worker, ?_, h.keep rfl⟩
    cases decision <;> simp [Dispatcher.after]
  | took waiting phase =>
    exact ⟨h.set _ (by simp), by simp, h.keep rfl⟩
  | came result working =>
    refine ⟨h.set _ ?_, h.dispatcher, h.keep rfl⟩
    rintro job _ ⟨⟩
    exact returns
  | cameBack result phase =>
    refine ⟨h.worker, ?_, h.keep rfl⟩
    rintro job _ ⟨⟩
    exact returns
  | gave returning =>
    exact ⟨h.set _ (by simp), h.dispatcher,
      h.give (h.worker _ _ (List.mem_of_getElem? returning))⟩
  | gaveBack returning => exact ⟨h.worker, by simp, h.give (h.dispatcher _ _ returning)⟩
  | left waiting closed =>
    exact ⟨h.set _ (by simp), h.dispatcher, h.keep rfl⟩
  | collected phase sent => exact ⟨h.worker, h.dispatcher, h.keep rfl⟩
  | gathered _ | settled _ | kept _ _ | jobsClosed _ _ | resultsClosed _ | ended _ _ _ =>
    exact ⟨h.worker, by simp, h.keep rfl⟩

theorem faithful_run (run : Run (start workers jobs) es c)
    (returns : ∀ e ∈ es, e.Returns process) : Faithful process es c := by
  induction run with
  | refl => exact faithful_start workers jobs process
  | step _ step ih =>
    obtain ⟨before, last⟩ := List.forall_mem_append.mp returns
    exact (ih before).step step (last _ (List.mem_singleton_self _))

theorem Faithful.results_eq (h : Faithful process es c) :
    (given es).map Prod.snd = ((given es).map Prod.fst).map process := by
  rw [List.map_map]
  exact List.map_congr_left fun done member => h.done done.1 done.2 member

/-- What a run has come to when it is over. -/
structure Complete (process : ι → τ) (jobs : List ι) (es : List (Event ι τ)) (c : Crew ι τ) :
    Prop where
  all_considered : (considered es).map Prod.fst = jobs
  each_begun_once : begun es = handedOver es
  each_done_once : ((given es).map Prod.fst).Perm (handedOver es)
  results : c.results.Perm ((considered es).filterMap (·.2.outcome? process))
  quiet : c.running = 0
  all_gone : ∀ w ∈ c.workers, w.isGone = true

theorem complete_of_isDone (run : Run (start workers jobs) es c)
    (returns : ∀ e ∈ es, e.Returns process) (done : c.isDone = true) :
    Complete process jobs es c := by
  have books := books_run run
  have sound := sound_run (sound_start workers jobs) run
  have at_end := dispatcher_of_isDone done
  obtain ⟨nothing_sent, deserted⟩ := sound.ended done
  have handed : begun es = handedOver es := by
    simpa [at_end, Dispatcher.offer?] using books.handed
  have given_jobs : ((given es).map Prod.fst).Perm (handedOver es) := by
    have at_work := books.at_work
    rw [sound.atWork_eq_nil done, List.append_nil, handed] at at_work
    exact at_work.symm
  have settled_results : settled es = (considered es).filterMap (·.2.result?) := by
    simpa [at_end, Dispatcher.settling?] using books.settled
  refine ⟨?_, handed, given_jobs, ?_, sound.quiet done, List.all_eq_true.mp deserted⟩
  · have looked_at := books.looked_at
    rwa [sound.looked_at (by simp [at_end, Dispatcher.hasJobs]), List.append_nil] at looked_at
  · have arrived := books.on_the_way
    rw [nothing_sent, List.append_nil, settled_results,
      (faithful_run run returns).results_eq] at arrived
    refine arrived.trans (((given_jobs.map process).append_left _).trans ?_)
    simpa [handedOver, List.filterMap_map, Function.comp_def] using
      Decision.outcomes_perm process ((considered es).map Prod.snd)

/-- What holds of a crew at every moment of its run. -/
structure Served (process : ι → τ) (workers : Nat) (jobs : List ι) (es : List (Event ι τ))
    (c : Crew ι τ) : Prop where
  few_at_once : c.running ≤ max workers 1
  none_begun_twice : begun es <+: handedOver es
  /-- No run goes on for ever. -/
  bounded : es.length ≤ 5 * jobs.length + 2 * max workers 1 + 4
  moves : c.isDone = false → ∀ decide : ι → Decision ι τ,
    ∃ e d, Step c e d ∧ e.Decides decide ∧ e.Returns process
  complete : c.isDone = true → Complete process jobs es c

theorem each_run_served (run : Run (start workers jobs) es c)
    (returns : ∀ e ∈ es, e.Returns process) : Served process workers jobs es c where
  none_begun_twice := ⟨_, (books_run run).handed⟩
  few_at_once := (sound_run (sound_start workers jobs) run).running_le (by omega)
  bounded := by
    have spent := run.work_le
    rw [work_start] at spent
    omega
  moves undone decide := exists_step decide process undone
  complete := complete_of_isDone run returns

/-- Two workers have five jobs: three are handed over, one of them under another name, one is
settled and one passed over. -/
theorem five_jobs_served :
    let begin : Crew Nat Nat := start 2 [1, 2, 3, 4, 5]
    let c := drive (fun | 2 => .settle 7 | 3 => .skip | 5 => .handOver 9 | job => .handOver job)
      (fun job => 10 * job) 33 begin
    c.isDone = true ∧ c.results = [7, 10, 40, 90] ∧
      ∃ es, Run begin es c ∧ (∀ e ∈ es, e.Returns fun job => 10 * job) ∧
        Served (fun job => 10 * job) 2 [1, 2, 3, 4, 5] es c := by
  refine ⟨by decide +kernel, by decide +kernel, ?_⟩
  obtain ⟨es, run, obeys⟩ := drive_run
    (fun | 2 => .settle 7 | 3 => .skip | 5 => .handOver 9 | job => .handOver job)
    (fun job => 10 * job) 33 (start 2 [1, 2, 3, 4, 5])
  have returns := fun e member => (obeys e member).2
  exact ⟨es, run, returns, each_run_served run returns⟩

theorem run_perm (workers : Nat) (decide : ι → Decision ι τ) (process : ι → τ) (jobs : List ι) :
    (run workers decide process jobs).Perm
      (jobs.filterMap fun job => (decide job).outcome? process) := by
  obtain ⟨es, whole, obeys⟩ := drive_run decide process
    (5 * jobs.length + 2 * max workers 1 + 4) (start workers jobs)
  have at_end := drive_isDone decide process (Nat.le_of_eq (work_start workers jobs))
  have complete := complete_of_isDone whole (fun e member => (obeys e member).2) at_end
  refine complete.results.trans (.of_eq ?_)
  have decided : ∀ looked ∈ considered es, looked.2 = decide looked.1 := by
    rintro ⟨job, decision⟩ member
    obtain ⟨e, here, shown⟩ := List.mem_filterMap.mp member
    have kept := (obeys e here).1
    cases e <;> simp_all [Event.Decides]
  conv => rhs; rw [← complete.all_considered, List.filterMap_map]
  exact List.filterMap_congr fun looked member => by simp [decided looked member]

end Crew

end MountProbe
