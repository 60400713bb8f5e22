import MountProbe.Proofs.Crew.Service
import MountProbe.Proofs.Pool.Steps

/-! A crew seen from outside is a pool: its threads and channels add no order of looking, taking,
finishing and collecting that a pool does not have, when the dispatcher hands over the very jobs
that it looks at. -/
namespace MountProbe.Crew

variable {ι τ : Type} {c d : Crew ι τ} {e : Event ι τ} {n : Nat}

/-- A job that the dispatcher settles is looked at, for a pool, when its result is sent. -/
def outside : Event ι τ → Option (Pool.Event ι τ)
  | .considered job (.handOver _) => some (.considered job .dispatch)
  | .considered job .skip => some (.considered job .skip)
  | .settled job result => some (.considered job (.resolved result))
  | .took _ job => some (.took job)
  | .gave _ job result => some (.finished job result)
  | .collected result => some (.collected result)
  | _ => none

def Event.HandsOverItself : Event ι τ → Prop
  | considered job (.handOver label) => label = job
  | _ => True

structure Seen (n : Nat) (c : Crew ι τ) (p : Pool ι τ) : Prop where
  workers : p.workers = n
  pending : p.pending = (c.dispatcher.settling?.map Prod.fst).toList ++ c.pending
  handing : p.handing = c.dispatcher.offer?
  busy : p.busy.Perm c.atWork
  ready : p.ready = c.sent
  collected : p.collected = c.collected

theorem seen_start (workers : Nat) (jobs : List ι) :
    Seen (max workers 1) (start workers jobs : Crew ι τ) (.start workers jobs) := by
  constructor <;> simp [start, Pool.start, atWork, Dispatcher.settling?, Dispatcher.offer?,
    Dispatcher.job?]

theorem Sound.atWork_lt {k : Nat} {w : Worker ι τ} {job : ι} (h : Sound n c)
    (here : c.workers[k]? = some w) (idle : w.job? = none)
    (handing : c.dispatcher = .handing job) : c.atWork.length < n := by
  have one_less : (c.workers.filterMap Worker.job?).length < c.workers.length :=
    List.length_filterMap_lt_length_iff_exists.mpr ⟨w, List.mem_of_getElem? here, idle⟩
  have few := h.few
  simp only [atWork, handing, Dispatcher.job?, Option.toList_none, List.nil_append]
  omega

theorem atWork_perm (step : Step c e d) (nothing_begun : begun [e] = [])
    (nothing_given : given [e] = []) : c.atWork.Perm d.atWork := by
  simpa [nothing_begun, nothing_given] using step_atWork step

variable [DecidableEq ι]

theorem Seen.take {p : Pool ι τ} {job : ι} (h : Seen n c p) (handing : c.dispatcher = .handing job)
    (room : c.atWork.length < n) :
    Pool.Step p (.took job) { p with handing := none, busy := p.busy ++ [job] } := by
  have waits : p.handing = some job := by simp [h.handing, handing, Dispatcher.offer?]
  have free : p.busy.length < p.workers := by rwa [h.busy.length_eq, h.workers]
  exact .take waits (by simp [Pool.take, waits, free])

theorem Seen.finish {p : Pool ι τ} {job : ι} {result : τ} {others : List ι} (h : Seen n c p)
    (one_less : c.atWork.Perm (job :: others)) :
    Pool.Step p (.finished job result)
        { p with busy := p.busy.erase job, ready := p.ready ++ [result] } ∧
      (p.busy.erase job).Perm others := by
  have busy := h.busy.trans one_less
  have member : job ∈ p.busy := busy.mem_iff.mpr List.mem_cons_self
  refine ⟨.finish (by simp [Pool.finish, member]), ?_⟩
  have rest := busy.erase job
  rwa [List.erase_cons_head] at rest

theorem Seen.consider {p : Pool ι τ} {job : ι} {rest : List ι} (h : Seen n c p)
    (idle : c.dispatcher.offer? = none) (pending : p.pending = job :: rest)
    (verdict : Admission τ) :
    Pool.Step p (.considered job verdict) { p with
      pending := rest
      handing := Pool.dispatchedOf (job, verdict)
      ready := p.ready ++ (Pool.resolvedOf (job, verdict)).toList } := by
  have handing : p.handing = none := h.handing.trans idle
  have next : p.next? = some job := by simp [Pool.next?, handing, pending]
  refine .consider next ?_
  cases verdict <;> simp [Pool.consider, handing, pending, Pool.dispatchedOf, Pool.resolvedOf]

theorem Seen.collect {p : Pool ι τ} {result : τ} {rest : List τ} (h : Seen n c p)
    (phase : c.dispatcher = .draining) (nothing_pending : c.pending = [])
    (sent : c.sent = result :: rest) :
    Pool.Step p (.collected result) { p with
      ready := rest
      collected := result :: p.collected } := by
  have pending : p.pending = [] := by
    simp [h.pending, phase, Dispatcher.settling?, nothing_pending]
  have handing : p.handing = none := by simp [h.handing, phase, Dispatcher.offer?]
  have ready : p.ready = result :: rest := h.ready.trans sent
  exact .collect (by simp [ready]) (by simp [Pool.collect, pending, handing, ready])

/-- What a step of the crew is for the pool: one step or none. -/
theorem Seen.step {p : Pool ι τ} (h : Seen n c p) (sound : Sound n c) (one : 0 < n)
    (step : Step c e d) (itself : e.HandsOverItself) :
    ∃ q, Pool.Run p (outside e).toList q ∧ Seen n d q := by
  have stays {q : Pool ι τ} (f : Pool.Event ι τ) (seen : Pool.Step p f q) :
      Pool.Run p (some f).toList q := .step (.refl p) seen
  cases step.move with
  | hired starts phase =>
    refine ⟨p, .refl p, { h with pending := ?_, handing := ?_, busy := ?_ }⟩
    · simp [h.pending, phase, Dispatcher.settling?]
    · simp [h.handing, phase, Dispatcher.offer?]
    · exact h.busy.trans (atWork_perm step rfl rfl)
  | gathered phase | cameBack _ phase | jobsClosed phase _ | resultsClosed phase
  | ended phase _ _ =>
    refine ⟨p, .refl p, { h with pending := ?_, handing := ?_, busy := ?_ }⟩
    · simp [h.pending, phase, Dispatcher.settling?]
    · simp [h.handing, phase, Dispatcher.offer?]
    · exact h.busy.trans (atWork_perm step rfl rfl)
  | came result working | left waiting closed =>
    exact ⟨p, .refl p, { h with busy := h.busy.trans (atWork_perm step rfl rfl) }⟩
  | @considered job rest decision phase pending =>
    have looks : p.pending = job :: rest := by
      simp [h.pending, phase, Dispatcher.settling?, pending]
    have idle : c.dispatcher.offer? = none := by simp [phase, Dispatcher.offer?]
    have busy := h.busy.trans (atWork_perm step rfl rfl)
    cases decision with
    | handOver label =>
      cases itself
      refine ⟨_, stays _ (h.consider idle looks .dispatch), ?_⟩
      exact { h with
        pending := by simp [Dispatcher.after, Dispatcher.settling?]
        handing := rfl
        busy := busy
        ready := by simp [Pool.resolvedOf, h.ready] }
    | skip =>
      refine ⟨_, stays _ (h.consider idle looks .skip), ?_⟩
      exact { h with
        pending := by simp [Dispatcher.after, Dispatcher.settling?]
        handing := rfl
        busy := busy
        ready := by simp [Pool.resolvedOf, h.ready] }
    | settle result =>
      refine ⟨p, .refl p, { h with pending := ?_, handing := ?_, busy := busy }⟩
      · simp [looks, Dispatcher.after, Dispatcher.settling?]
      · simp [h.handing, phase, Dispatcher.after, Dispatcher.offer?]
  | @settled job result phase =>
    have looks : p.pending = job :: c.pending := by
      simp [h.pending, phase, Dispatcher.settling?]
    have idle : c.dispatcher.offer? = none := by simp [phase, Dispatcher.offer?]
    refine ⟨_, stays _ (h.consider idle looks (.resolved result)), ?_⟩
    exact { h with
      pending := by simp [Dispatcher.settling?]
      handing := rfl
      busy := h.busy.trans (atWork_perm step rfl rfl)
      ready := by simp [Pool.resolvedOf, h.ready] }
  | @took k job waiting phase =>
    refine ⟨_, stays _ (h.take phase (sound.atWork_lt waiting rfl phase)), ?_⟩
    exact { h with
      pending := by simp [h.pending, phase, Dispatcher.settling?]
      handing := rfl
      busy := ((h.busy.append_right [job]).trans List.perm_append_comm).trans (step_atWork step) }
  | @kept job phase deserted =>
    have nobody := sound.deserted (by simp [phase, Dispatcher.hasJobs]) deserted
    have room : c.atWork.length < n := by
      simpa [atWork, phase, Dispatcher.job?, nobody] using one
    refine ⟨_, stays _ (h.take phase room), ?_⟩
    exact { h with
      pending := by simp [h.pending, phase, Dispatcher.settling?]
      handing := rfl
      busy := ((h.busy.append_right [job]).trans List.perm_append_comm).trans (step_atWork step) }
  | gave returning =>
    obtain ⟨finished, others⟩ := h.finish (step_atWork step)
    exact ⟨_, stays _ finished, { h with busy := others, ready := by simp [h.ready] }⟩
  | gaveBack phase =>
    obtain ⟨finished, others⟩ := h.finish (step_atWork step)
    exact ⟨_, stays _ finished, { h with
      pending := by simp [h.pending, phase, Dispatcher.settling?]
      handing := by simp [h.handing, phase, Dispatcher.offer?]
      busy := others
      ready := by simp [h.ready] }⟩
  | collected phase sent =>
    have nothing_pending := sound.looked_at (by simp [phase, Dispatcher.hasJobs])
    exact ⟨_, stays _ (h.collect phase nothing_pending sent), { h with
      ready := rfl
      collected := by simp [h.collected]
      busy := h.busy.trans (atWork_perm step rfl rfl) }⟩

/-- Each run of a crew is, from outside, a run of a pool of the same size over the same jobs, and
the pool is done when the crew is. -/
theorem pool_run {workers : Nat} {jobs : List ι} {es : List (Event ι τ)}
    (run : Run (start workers jobs) es c) (itself : ∀ e ∈ es, e.HandsOverItself) :
    ∃ p, Pool.Run (.start workers jobs) (es.filterMap outside) p ∧ Seen (max workers 1) c p ∧
      (c.isDone = true → p.isDone = true) := by
  have reached : ∃ p, Pool.Run (.start workers jobs) (es.filterMap outside) p ∧
      Seen (max workers 1) c p := by
    induction run with
    | refl => exact ⟨_, .refl _, seen_start workers jobs⟩
    | @step c d es e before step ih =>
      obtain ⟨earlier, last⟩ := List.forall_mem_append.mp itself
      obtain ⟨p, pool_run, seen⟩ := ih earlier
      obtain ⟨q, one_more, now⟩ := seen.step (sound_run (sound_start workers jobs) before)
        (by omega) step (last _ (List.mem_singleton_self _))
      refine ⟨q, ?_, now⟩
      have split : [e].filterMap outside = (outside e).toList := by
        cases h : outside e <;> simp [h]
      rw [List.filterMap_append, split]
      exact pool_run.append one_more
  obtain ⟨p, pool_run, seen⟩ := reached
  refine ⟨p, pool_run, seen, fun done => Pool.isDone_iff.mpr ?_⟩
  have sound := sound_run (sound_start workers jobs) run
  have at_end := dispatcher_of_isDone done
  have nothing_pending := sound.looked_at (by simp [at_end, Dispatcher.hasJobs])
  have idle := sound.atWork_eq_nil done
  refine ⟨?_, ?_, ?_, seen.ready.trans (sound.ended done).1⟩
  · simp [seen.pending, at_end, Dispatcher.settling?, nothing_pending]
  · simp [seen.handing, at_end, Dispatcher.offer?]
  · exact (idle ▸ seen.busy).eq_nil

end MountProbe.Crew
