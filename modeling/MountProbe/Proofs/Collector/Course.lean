import MountProbe.Proofs.Collector.Steps

namespace MountProbe.Traffic

open Stuck (Outcome Race)

def Event.inPool? (i : Nat) (e : Event) : Option (Pool.Event Mount.Label Stat.Record) :=
  match e.pool? with
  | some (j, pe) => if j = i then some pe else none
  | none => none

theorem Event.inPool?_eq_some {i : Nat} {e : Event} {pe : Pool.Event Mount.Label Stat.Record} :
    e.inPool? i = some pe ↔ e.pool? = some (i, pe) := by
  unfold inPool?
  split
  · rename_i j pe' here
    by_cases same : j = i <;> simp [same, here]
  · simp_all

theorem Event.inPool?_eq_none {i : Nat} {e : Event} (elsewhere : ∀ pe, e.pool? ≠ some (i, pe)) :
    e.inPool? i = none := by
  cases he : e.inPool? i with
  | none => rfl
  | some pe => exact absurd (inPool?_eq_some.mp he) (elsewhere pe)

def poolEvents (i : Nat) (es : List Event) : List (Pool.Event Mount.Label Stat.Record) :=
  es.filterMap (Event.inPool? i)

theorem poolEvents_concat (i : Nat) (es : List Event) (e : Event) :
    poolEvents i (es ++ [e]) = poolEvents i es ++ (e.inPool? i).toList := by
  cases he : e.inPool? i <;> simp [poolEvents, he]

/-- What has become of a cycle. -/
structure Course (i : Nat) (start : Cycle) (es : List Event) (c : Cycle) : Prop where
  pool : Pool.Run start.pool (poolEvents i es) c.pool
  repeated : c.repeated = start.repeated
  ended : ∀ records, c.records = some records → c.pool.isDone = true ∧
    records = c.pool.results ++ Stat.Record.shared c.pool.results c.repeated

theorem Course.step {t u : Traffic} {i : Nat} {start c : Cycle} {es : List Event} {e : Event}
    (course : Course i start es c) (cycle : t.cycles[i]? = some c) (step : Step t e u) :
    ∃ c', u.cycles[i]? = some c' ∧ Course i start (es ++ [e]) c' := by
  have bound := (List.getElem?_eq_some_iff.mp cycle).1
  have later := List.getElem?_eq_getElem (Nat.lt_of_lt_of_le bound (step_cycles_length step))
  refine ⟨_, later, ?_⟩
  obtain ⟨pool, repeated, ended⟩ := course
  rcases step_cycle step later with ⟨b, pool', pe, was, here, worked, now⟩ |
    ⟨b, records, rfl, was, done, all, now⟩ | ⟨was, elsewhere, _⟩ | ⟨high, _⟩
  · cases Option.some.inj (cycle.symm.trans was)
    rw [now]
    refine ⟨?_, repeated, fun records closed => ?_⟩
    · rw [poolEvents_concat, Event.inPool?_eq_some.mpr here]
      exact pool.step worked
    · have at_work := worked.not_isDone
      rw [(ended records closed).1] at at_work
      contradiction
  · cases Option.some.inj (cycle.symm.trans was)
    rw [now]
    refine ⟨?_, repeated, fun records' closed => ?_⟩
    · simpa [poolEvents_concat, Event.inPool?, Event.pool?] using pool
    · cases Option.some.inj closed
      exact ⟨done, all⟩
  · rw [cycle] at was
    rw [← Option.some.inj was]
    refine ⟨?_, repeated, ended⟩
    simpa [poolEvents_concat, Event.inPool?_eq_none elsewhere] using pool
  · omega

theorem course_of_run {t u : Traffic} {i : Nat} {start : Cycle} {es : List Event}
    (cycle : t.cycles[i]? = some start) (begun : start.records = none) (run : Run t es u) :
    ∃ c, u.cycles[i]? = some c ∧ Course i start es c := by
  induction run with
  | refl =>
    refine ⟨start, cycle, .refl _, rfl, fun records closed => ?_⟩
    rw [begun] at closed
    contradiction
  | step _ step ih =>
    obtain ⟨c, here, course⟩ := ih
    exact course.step here step

theorem Course.staffed {i now : Nat} {c : Collector} {mounts : List Mount.Label} {es : List Event}
    {cyc : Cycle} (course : Course i (.start now c mounts) es cyc) : 0 < cyc.pool.workers := by
  rw [course.pool.workers_eq]
  exact Nat.lt_of_lt_of_le Nat.one_pos (Nat.le_max_right c.workers 1)

/-- The mounts that the workers of a cycle have made calls for, in order. -/
def calledFor (t : Traffic) (i : Nat) : List Mount.Label :=
  (t.callsOf i).map (·.client.label)

theorem calledFor_of_clients {t u : Traffic} (i : Nat)
    (clients : u.race.calls.map (·.client) = t.race.calls.map (·.client)) :
    u.calledFor i = t.calledFor i := by
  have by_clients : ∀ v : Traffic, v.calledFor i =
      ((v.race.calls.map (·.client)).filter (·.cycle = some i)).map (·.label) := by
    intro v
    simp [calledFor, callsOf, List.filter_map, Function.comp_def]
  rw [by_clients, by_clients, clients]

theorem step_calledFor {t u : Traffic} {e : Event} (i : Nat) (h : Step t e u) :
    u.calledFor i = t.calledFor i ++ Pool.taken (e.inPool? i).toList := by
  cases e with
  | took j l =>
    obtain ⟨c, _, race⟩ := step_took h
    by_cases same : j = i
    · subst same
      simp [calledFor, callsOf, race, Race.start, Event.inPool?, Event.pool?, Pool.taken]
    · simp [calledFor, callsOf, race, Race.start, Event.inPool?, Event.pool?, Pool.taken, same]
  | called l g =>
    simp [calledFor, callsOf, step_called h, Race.start, Event.inPool?, Event.pool?, Pool.taken]
  | did k d =>
    rw [calledFor_of_clients i (Race.step_did_clients (step_did h))]
    simp [Event.inPool?, Event.pool?, Pool.taken]
  | _ =>
    have race := step_race_same h (by simp) (by simp) (by simp)
    have same : u.calledFor i = t.calledFor i := calledFor_of_clients i (by rw [race])
    simp only [Event.inPool?, Event.pool?]
    try split
    all_goals simp [Pool.taken, same]

theorem calledFor_run {t u : Traffic} {es : List Event} (i : Nat) (run : Run t es u) :
    u.calledFor i = t.calledFor i ++ Pool.taken (poolEvents i es) := by
  induction run with
  | refl => simp [poolEvents, Pool.taken]
  | step _ step ih =>
    rw [step_calledFor i step, ih, poolEvents_concat]
    simp [Pool.taken]

theorem step_told {t u : Traffic} {e : Event} {i : Nat} {call : Stuck.Call Client} {o : Outcome}
    (h : Step t e u) (member : call ∈ t.callsOf i) (told : call.outcome? = some o) :
    ∃ call' ∈ u.callsOf i, call'.client = call.client ∧ call'.outcome? = some o := by
  obtain ⟨started, mine⟩ := List.mem_filter.mp member
  rcases step_race h with same | ⟨deed, step⟩
  · refine ⟨call, ?_, rfl, told⟩
    rw [callsOf, same]
    exact member
  · obtain ⟨k, here⟩ := List.mem_iff_getElem?.mp started
    obtain ⟨call', now, later⟩ := Race.call_after step here
    refine ⟨call', List.mem_filter.mpr ⟨List.mem_of_getElem? now, ?_⟩, later.client_eq,
      later.told o told⟩
    rw [later.client_eq]
    exact mine

/-- What workers of a cycle hand in about a mount is what the call for it came to. -/
def HandsIn (i : Nat) (es : List Event) (t : Traffic) : Prop :=
  ∀ l r, (l, r) ∈ Pool.finished (poolEvents i es) →
    ∃ call ∈ t.callsOf i, call.client.label = l ∧
      ∃ o, call.outcome? = some o ∧ r = .ofOutcome l o

theorem handsIn_run {t u : Traffic} {es : List Event} (i : Nat) (run : Run t es u) :
    HandsIn i es u := by
  induction run with
  | refl =>
    intro l r handed
    simp [poolEvents, Pool.finished] at handed
  | @step s u es e _ step ih =>
    intro l r handed
    rw [poolEvents_concat, Pool.finished, List.filterMap_append] at handed
    rcases List.mem_append.mp handed with before | now
    · obtain ⟨call, member, label, o, told, same⟩ := ih l r before
      obtain ⟨call', member', client, told'⟩ := step_told step member told
      exact ⟨call', member', by rw [client, label], o, told', same⟩
    · cases here : e.inPool? i with
      | none => simp [here] at now
      | some pe =>
        have at_pool := Event.inPool?_eq_some.mp here
        cases step with
        | @handIn _ j k call o called cycle told handed_in =>
          cases Option.some.inj at_pool
          simp only [here, Option.toList_some, List.filterMap_cons, List.filterMap_nil,
            List.mem_singleton, Prod.mk.injEq] at now
          refine ⟨call, ?_, now.1.symm, o, told, by rw [now.1, now.2]⟩
          rw [callsOf, step_race_same (.handIn called cycle told handed_in) (by simp) (by simp)
            (by simp)]
          exact List.mem_filter.mpr ⟨List.mem_of_getElem? called, by simp [cycle]⟩
        | consider _ _ _ => cases Option.some.inj at_pool; simp [here] at now
        | take _ _ _ => cases Option.some.inj at_pool; simp [here] at now
        | collect _ _ _ => cases Option.some.inj at_pool; simp [here] at now
        | _ => cases at_pool

end MountProbe.Traffic
