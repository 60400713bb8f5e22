import MountProbe.Proofs.Collector.Orderly
import MountProbe.Proofs.Pool.Work
import MountProbe.Proofs.Stuck.Telling

namespace MountProbe.Traffic

open Stuck (Outcome Race)

theorem step_of_callers {t : Traffic} {r : Race Client} {k : Nat} {d : Race.Deed}
    (callers : d.isCallers = true) (step : Race.Step t.race (.did k d) r) :
    Step t (.did k d) { t with race := r } := by
  cases step with
  | finish _ => cases callers
  | report _ => cases callers
  | expire expired => exact .expire (by simp [expire?, expired])
  | look looked => exact .look looked (by simp [look?, looked])
  | receive received => exact .receive received (by simp [receive?, received])

theorem run_of_callers {t : Traffic} {r : Race Client} {k : Nat} {deeds : List (Race.Event Client)}
    (callers : ∀ e ∈ deeds, ∃ d, e = .did k d ∧ d.isCallers = true)
    (run : Race.Run t.race deeds r) : ∃ es, Run t es { t with race := r } := by
  generalize start : t.race = s at run
  induction run with
  | refl => exact ⟨[], start ▸ .refl t⟩
  | step _ step ih =>
    obtain ⟨es, before⟩ := ih fun e member => callers e (List.mem_append_left _ member)
    obtain ⟨d, rfl, his⟩ := callers _ (List.mem_append_right _ (List.mem_singleton.mpr rfl))
    exact ⟨_, before.step (step_of_callers his step)⟩

theorem can_be_told {t : Traffic} {i : Nat} {call : Stuck.Call Client}
    (member : call ∈ t.callsOf i) :
    ∃ (es : List Event) (r : Race Client) (k : Nat) (told : Stuck.Call Client) (o : Outcome),
      Run t es { t with race := r } ∧ r.calls[k]? = some told ∧ told.client.cycle = some i ∧
        told.client.label = call.client.label ∧ told.outcome? = some o := by
  obtain ⟨started, mine⟩ := List.mem_filter.mp member
  obtain ⟨k, here⟩ := List.mem_iff_getElem?.mp started
  obtain ⟨ds, r, told, callers, race, now, finished⟩ := Stuck.can_finish here
  obtain ⟨o, outcome⟩ := Option.isSome_iff_exists.mp finished
  obtain ⟨told', now', later⟩ := Race.call_after_run race here
  cases Option.some.inj (now.symm.trans now')
  have his : ∀ e ∈ ds.map (Race.Event.did (κ := Client) k),
      ∃ d, e = .did k d ∧ d.isCallers = true := by
    intro e listed
    obtain ⟨d, own, rfl⟩ := List.mem_map.mp listed
    exact ⟨d, rfl, callers d own⟩
  obtain ⟨es, run⟩ := run_of_callers his race
  exact ⟨es, r, k, told, o, run, now, by simpa [later.client_eq] using mine,
    by rw [later.client_eq], outcome⟩

section

variable {t u : Traffic} {i k : Nat} {c : Cycle}

theorem step_of_handIn {call : Stuck.Call Client} {o : Outcome} (cycle : t.cycles[i]? = some c)
    (here : t.race.calls[k]? = some call) (mine : call.client.cycle = some i)
    (told : call.outcome? = some o) (busy : call.client.label ∈ c.pool.busy) :
    ∃ u, Step t (.handed i call.client.label o) u := by
  have handed : ∃ u, t.handIn? k = some u := by
    simp [handIn?, here, told, mine, cycle, Pool.finish, busy]
  obtain ⟨u, handed⟩ := handed
  exact ⟨u, .handIn here mine told handed⟩

theorem step_of_consider? (h : t.consider? i = some u) :
    ∃ l stuck, Step t (.considered i l stuck) u := by
  have opened := h
  simp only [consider?, Option.bind_eq_bind] at opened
  obtain ⟨c, cycle, rest⟩ := Option.bind_eq_some_iff.mp opened
  obtain ⟨l, next, _⟩ := Option.bind_eq_some_iff.mp rest
  exact ⟨l, _, .consider cycle next h⟩

theorem consider?_isSome {l : Mount.Label} (cycle : t.cycles[i]? = some c)
    (next : c.pool.next? = some l) (looks : ∀ verdict, (c.pool.consider verdict).isSome = true) :
    ∃ u, t.consider? i = some u := by
  obtain ⟨resolved, hr⟩ := Option.isSome_iff_exists.mp (looks (.resolved (.stuck l)))
  obtain ⟨dispatched, hd⟩ := Option.isSome_iff_exists.mp (looks .dispatch)
  simp only [consider?, cycle, next, Option.bind_eq_bind, Option.bind_some]
  split
  · simp [hr]
  · simp [hd]

theorem step_of_take? (h : t.take? i = some u) : ∃ l, Step t (.took i l) u := by
  have opened := h
  simp only [take?, Option.bind_eq_bind] at opened
  obtain ⟨c, cycle, rest⟩ := Option.bind_eq_some_iff.mp opened
  obtain ⟨l, waits, _⟩ := Option.bind_eq_some_iff.mp rest
  exact ⟨l, .take cycle waits h⟩

theorem take?_isSome {l : Mount.Label} (cycle : t.cycles[i]? = some c)
    (waits : c.pool.handing = some l) (free : c.pool.take.isSome = true) :
    ∃ u, t.take? i = some u := by
  obtain ⟨pool, taken⟩ := Option.isSome_iff_exists.mp free
  simp [take?, cycle, waits, taken]

theorem step_of_collect? (h : t.collect? i = some u) : ∃ r, Step t (.collected i r) u := by
  have opened := h
  simp only [collect?, Option.bind_eq_bind] at opened
  obtain ⟨c, cycle, rest⟩ := Option.bind_eq_some_iff.mp opened
  obtain ⟨pool, arrived, _⟩ := Option.bind_eq_some_iff.mp rest
  obtain ⟨r, later, _, _, ready, _⟩ := Pool.collect_eq_some arrived
  exact ⟨r, .collect cycle (by simp [ready]) h⟩

theorem collect?_isSome (cycle : t.cycles[i]? = some c) (arrives : c.pool.collect.isSome = true) :
    ∃ u, t.collect? i = some u := by
  obtain ⟨pool, arrived⟩ := Option.isSome_iff_exists.mp arrives
  simp [collect?, cycle, arrived]

theorem step_of_close? {now : Nat} (h : t.close? now i = some u) :
    ∃ records, Step t (.closed i records) u ∧ u.records? i = some records := by
  have opened := h
  simp only [close?, Option.bind_eq_bind] at opened
  obtain ⟨c, cycle, rest⟩ := Option.bind_eq_some_iff.mp opened
  have bound := (List.getElem?_eq_some_iff.mp cycle).1
  obtain ⟨records, said⟩ : ∃ records, u.records? i = some records := by
    split at rest
    · cases Option.some.inj rest
      simp [records?, List.getElem?_set_self bound]
    · contradiction
  exact ⟨records, .close h said, said⟩

theorem close?_isSome (now : Nat) (cycle : t.cycles[i]? = some c) (done : c.pool.isDone = true)
    (open_cycle : c.records = none) : ∃ u, t.close? now i = some u := by
  simp [close?, cycle, done, open_cycle]

theorem can_work {jobs : List Mount.Label} {es : List Event} (run : Run t es u)
    (unborn : t.calledFor i = []) (cycle : u.cycles[i]? = some c)
    (books : Pool.Books jobs (poolEvents i es) c.pool) (staffed : 0 < c.pool.workers)
    (unfinished : c.pool.isDone = false) :
    ∃ fs v e pe w, Run u fs v ∧ v.cycles = u.cycles ∧ Step v e w ∧ e.pool? = some (i, pe) := by
  cases Pool.next_of_not_isDone staffed unfinished with
  | consider next looks =>
    obtain ⟨w, considered⟩ := consider?_isSome cycle next looks
    obtain ⟨l, stuck, step⟩ := step_of_consider? considered
    exact ⟨[], u, _, _, w, .refl u, rfl, step, rfl⟩
  | take waits free =>
    obtain ⟨w, took⟩ := take?_isSome cycle waits free
    obtain ⟨l, step⟩ := step_of_take? took
    exact ⟨[], u, _, _, w, .refl u, rfl, step, rfl⟩
  | collect _ arrives =>
    obtain ⟨w, collected⟩ := collect?_isSome cycle arrives
    obtain ⟨r, step⟩ := step_of_collect? collected
    exact ⟨[], u, _, _, w, .refl u, rfl, step, rfl⟩
  | @finish l busy =>
    have taken : l ∈ u.calledFor i := by
      rw [calledFor_run i run, unborn, List.nil_append]
      exact books.at_work.mem_iff.mpr (List.mem_append_right _ busy)
    obtain ⟨call, mine, rfl⟩ := List.mem_map.mp taken
    obtain ⟨fs, r, k, told, o, waited, here, his, label, outcome⟩ := can_be_told mine
    obtain ⟨w, step⟩ :=
      step_of_handIn (t := { u with race := r }) cycle here his outcome (label ▸ busy)
    exact ⟨fs, _, _, _, w, waited, rfl, step, rfl⟩

end

/-- A cycle that has begun comes to its end, whatever has happened to it and to others. -/
theorem can_end {t u v : Traffic} {now : Nat} {c : Collector} {mounts : List Mount.Label}
    {es : List Event} (orderly : Orderly t) (begun : Step t (.began now c mounts) u)
    (run : Run u es v) :
    ∃ fs w records, Run v fs w ∧ w.records? t.cycles.length = some records := by
  have fresh := orderly.begun begun
  obtain ⟨cyc, cycle, course, -⟩ := fresh.run run
  -- The pool has less work left after each step of its own.
  generalize left : cyc.pool.work = work
  induction work using Nat.strongRecOn generalizing es v cyc with
  | ind work ih =>
    cases closed : cyc.records with
    | some records =>
      exact ⟨[], v, records, .refl v, by simp [records?, cycle, closed]⟩
    | none =>
      cases done : cyc.pool.isDone with
      | true =>
        obtain ⟨w, closes⟩ := close?_isSome 0 cycle done closed
        obtain ⟨records, step, said⟩ := step_of_close? closes
        exact ⟨_, w, records, .step (.refl v) step, said⟩
      | false =>
        obtain ⟨fs, v', e, pe, w, waits, same, step, here⟩ :=
          can_work run fresh.unborn cycle (Pool.books_run course.pool) course.staffed done
        obtain ⟨b, pool, was, worked, after⟩ := step_pool step here
        rw [same, cycle] at was
        cases Option.some.inj was
        have run' := (run.append waits).step step
        obtain ⟨cyc', cycle', course', -⟩ := fresh.run run'
        have bound := (List.getElem?_eq_some_iff.mp cycle).1
        have less : cyc'.pool.work < work := by
          rw [after, same, List.getElem?_set_self bound] at cycle'
          rw [← Option.some.inj cycle', ← left]
          exact worked.work_lt
        obtain ⟨gs, z, records, rest, said⟩ := ih _ less run' cyc' cycle' course' rfl
        exact ⟨fs ++ [e] ++ gs, z, records, (waits.step step).append rest, said⟩

end MountProbe.Traffic
