import MountProbe.Proofs.Crew.Steps

namespace MountProbe

/-- What is in a list at one place may change: what the list says of its members changes with it. -/
theorem filterMap_set_perm {α β : Type} (f : α → Option β) {l : List α} {k : Nat} {a : α}
    (here : l[k]? = some a) (b : α) :
    ((f a).toList ++ (l.set k b).filterMap f).Perm ((f b).toList ++ l.filterMap f) := by
  induction l generalizing k with
  | nil => cases here
  | cons x xs ih =>
    have split_head : ∀ (y : α) (ys : List α),
        (y :: ys).filterMap f = (f y).toList ++ ys.filterMap f := by
      intro y ys
      cases hy : f y <;> simp [hy]
    cases k with
    | zero =>
      cases Option.some.inj here
      rw [List.set_cons_zero, split_head, split_head]
      exact List.perm_append_comm_assoc ..
    | succ k =>
      have later := ih here
      rw [List.set_cons_succ, split_head, split_head]
      exact ((List.perm_append_comm_assoc ..).trans (later.append_left _)).trans
        (List.perm_append_comm_assoc ..)

namespace Decision

variable {ι τ : Type}

def job? : Decision ι τ → Option ι
  | handOver job => some job
  | _ => none

def result? : Decision ι τ → Option τ
  | settle result => some result
  | _ => none

end Decision

namespace Crew

variable {ι τ : Type} {c d : Crew ι τ} {e : Event ι τ} {es : List (Event ι τ)}

/-- The jobs that the dispatcher has looked at, in order, and what it made of them. -/
def considered (es : List (Event ι τ)) : List (ι × Decision ι τ) :=
  es.filterMap fun
    | .considered job decision => some (job, decision)
    | _ => none

/-- The jobs that were handed over, in order. -/
def handedOver (es : List (Event ι τ)) : List ι :=
  (considered es).filterMap (·.2.job?)

def settled (es : List (Event ι τ)) : List τ :=
  es.filterMap fun
    | .settled _ result => some result
    | _ => none

/-- The jobs that somebody has started to do, in order. -/
def begun (es : List (Event ι τ)) : List ι :=
  es.filterMap fun
    | .took _ job => some job
    | _ => none

/-- The jobs that are done, and the results that were sent. -/
def given (es : List (Event ι τ)) : List (ι × τ) :=
  es.filterMap fun
    | .gave _ job result => some (job, result)
    | _ => none

def atWork (c : Crew ι τ) : List ι :=
  c.dispatcher.job?.toList ++ c.workers.filterMap Worker.job?

theorem begun_append (es fs : List (Event ι τ)) : begun (es ++ fs) = begun es ++ begun fs :=
  List.filterMap_append

theorem given_append (es fs : List (Event ι τ)) : given (es ++ fs) = given es ++ given fs :=
  List.filterMap_append

theorem Sound.atWork_eq_nil {n : Nat} (h : Sound n c) (done : c.isDone = true) :
    c.atWork = [] := by
  have nobody : c.workers.filterMap Worker.job? = [] := by
    refine List.filterMap_eq_nil_iff.mpr fun w member => ?_
    have gone := List.all_eq_true.mp (h.ended done).2 w member
    cases w <;> simp_all [Worker.isGone, Worker.job?]
  simp [atWork, dispatcher_of_isDone done, Dispatcher.job?, nobody]

/-- Where the jobs of a crew are. -/
structure Books (jobs : List ι) (es : List (Event ι τ)) (c : Crew ι τ) : Prop where
  looked_at : (considered es).map Prod.fst ++ c.pending = jobs
  handed : begun es ++ c.dispatcher.offer?.toList = handedOver es
  settled : settled es ++ (c.dispatcher.settling?.map Prod.snd).toList =
    (considered es).filterMap (·.2.result?)
  at_work : (begun es).Perm ((given es).map Prod.fst ++ c.atWork)
  on_the_way : (c.results ++ c.sent).Perm (Crew.settled es ++ (given es).map Prod.snd)

theorem books_start (workers : Nat) (jobs : List ι) :
    Books jobs [] (start workers jobs : Crew ι τ) := by
  constructor <;>
    simp [start, considered, handedOver, begun, Crew.settled, given, atWork, results,
      Dispatcher.offer?, Dispatcher.settling?, Dispatcher.job?]

theorem atWork_set {k : Nat} {w : Worker ι τ} (here : c.workers[k]? = some w) (w' : Worker ι τ)
    (dispatcher : Dispatcher ι τ) (same : dispatcher.job? = c.dispatcher.job?) :
    (w.job?.toList ++ atWork { c with dispatcher, workers := c.workers.set k w' }).Perm
      (w'.job?.toList ++ c.atWork) := by
  have changed := filterMap_set_perm Worker.job? here w'
  simp only [atWork, same]
  exact ((List.perm_append_comm_assoc ..).trans (changed.append_left _)).trans
    (List.perm_append_comm_assoc ..)

theorem step_looked_at {jobs : List ι} (h : (considered es).map Prod.fst ++ c.pending = jobs)
    (step : Step c e d) : (considered (es ++ [e])).map Prod.fst ++ d.pending = jobs := by
  cases step.move with
  | considered decision looking pending => simpa [considered, pending] using h
  | _ => simpa [considered] using h

theorem step_handed (h : begun es ++ c.dispatcher.offer?.toList = handedOver es)
    (step : Step c e d) :
    begun (es ++ [e]) ++ d.dispatcher.offer?.toList = handedOver (es ++ [e]) := by
  cases step.move with
  | considered decision looking pending =>
    cases decision <;>
      simpa [begun, handedOver, considered, looking, Dispatcher.after, Dispatcher.offer?,
        Decision.job?] using h
  | kept phase _ | took _ phase =>
    simpa [begun, handedOver, considered, phase, Dispatcher.offer?] using h
  | hired _ phase | gathered phase | settled phase | cameBack _ phase | gaveBack phase
  | jobsClosed phase _ | resultsClosed phase | ended phase _ _ =>
    simpa [begun, handedOver, considered, phase, Dispatcher.offer?] using h
  | _ => simpa [begun, handedOver, considered] using h

theorem step_settled
    (h : settled es ++ (c.dispatcher.settling?.map Prod.snd).toList =
      (considered es).filterMap (·.2.result?))
    (step : Step c e d) :
    settled (es ++ [e]) ++ (d.dispatcher.settling?.map Prod.snd).toList =
      (considered (es ++ [e])).filterMap (·.2.result?) := by
  cases step.move with
  | considered decision looking pending =>
    cases decision <;>
      simpa [settled, considered, looking, Dispatcher.after, Dispatcher.settling?,
        Decision.result?] using h
  | settled phase => simpa [settled, considered, phase, Dispatcher.settling?] using h
  | hired _ phase | gathered phase | kept phase _ | took _ phase | cameBack _ phase
  | gaveBack phase | jobsClosed phase _ | resultsClosed phase | ended phase _ _ =>
    simpa [settled, considered, phase, Dispatcher.settling?] using h
  | _ => simpa [settled, considered] using h

theorem step_on_the_way
    (h : (c.results ++ c.sent).Perm (settled es ++ (given es).map Prod.snd)) (step : Step c e d) :
    (d.results ++ d.sent).Perm (settled (es ++ [e]) ++ (given (es ++ [e])).map Prod.snd) := by
  cases step.move with
  | settled settling =>
    simp only [settled, given, results, List.filterMap_append, List.filterMap_cons,
      List.filterMap_nil, List.append_nil, ← List.append_assoc] at h ⊢
    refine (h.append_right _).trans ?_
    rw [List.append_assoc, List.append_assoc]
    exact List.perm_append_comm.append_left _
  | gaveBack returning | gave returning =>
    simp only [settled, given, results, List.filterMap_append, List.filterMap_cons,
      List.filterMap_nil, List.map_append, List.map_cons, List.map_nil, List.append_nil,
      ← List.append_assoc] at h ⊢
    exact h.append_right _
  | collected draining sent => simpa [settled, given, results, sent] using h
  | _ => simpa [settled, given, results] using h

/-- A step conserves work: what it begins joins what is at work, and what it gives leaves it. -/
theorem step_atWork (step : Step c e d) :
    (begun [e] ++ c.atWork).Perm ((given [e]).map Prod.fst ++ d.atWork) := by
  cases step.move with
  | kept handing deserted => simp [begun, given, atWork, handing, Dispatcher.job?]
  | gaveBack returning => simp [begun, given, atWork, returning, Dispatcher.job?]
  | @took k job waiting handing =>
    exact (atWork_set waiting (.working job) .looking (by simp [handing, Dispatcher.job?])).symm
  | @came k job result working =>
    have same := atWork_set working (.returning job result) c.dispatcher rfl
    exact ((List.perm_cons job).mp same).symm
  | gave returning => exact (atWork_set returning .waiting c.dispatcher rfl).symm
  | left waiting closed => exact (atWork_set waiting .gone c.dispatcher rfl).symm
  | hired start phase =>
    have idle : [(.waiting : Worker ι τ)].filterMap Worker.job? = [] := rfl
    cases start <;> simp [begun, given, atWork, phase, Dispatcher.job?, idle]
  | considered decision phase pending =>
    cases decision <;> simp [begun, given, atWork, phase, Dispatcher.job?, Dispatcher.after]
  | cameBack _ phase | gathered phase | settled phase | jobsClosed phase _ | resultsClosed phase
  | ended phase _ _ =>
    simp [begun, given, atWork, phase, Dispatcher.job?]
  | collected _ _ => exact .refl _

theorem step_at_work (h : (begun es).Perm ((given es).map Prod.fst ++ c.atWork))
    (step : Step c e d) :
    (begun (es ++ [e])).Perm ((given (es ++ [e])).map Prod.fst ++ d.atWork) := by
  rw [begun_append, given_append, List.map_append, List.append_assoc]
  refine (h.append_right _).trans ?_
  rw [List.append_assoc]
  exact (List.perm_append_comm.trans (step_atWork step)).append_left _

theorem Books.step {jobs : List ι} (h : Books jobs es c) (step : Step c e d) :
    Books jobs (es ++ [e]) d where
  looked_at := step_looked_at h.looked_at step
  handed := step_handed h.handed step
  settled := step_settled h.settled step
  at_work := step_at_work h.at_work step
  on_the_way := step_on_the_way h.on_the_way step

theorem books_run {workers : Nat} {jobs : List ι} (run : Run (start workers jobs) es c) :
    Books jobs es c := by
  induction run with
  | refl => exact books_start workers jobs
  | step _ step ih => exact ih.step step

end Crew

end MountProbe
