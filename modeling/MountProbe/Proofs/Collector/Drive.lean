import MountProbe.Proofs.Collector.Schedule

namespace MountProbe.Timetable

open Traffic (Moves Run Step)

def callsLeft : List (Stuck.Call Client) → Nat
  | [] => 0
  | c :: cs => c.left + callsLeft cs

theorem callsLeft_append (cs ds : List (Stuck.Call Client)) :
    callsLeft (cs ++ ds) = callsLeft cs + callsLeft ds := by
  induction cs with
  | nil => simp [callsLeft]
  | cons c cs ih =>
    simp only [List.cons_append, callsLeft]
    omega

theorem callsLeft_set {cs : List (Stuck.Call Client)} {k : Nat} {c : Stuck.Call Client}
    (here : cs[k]? = some c) (c' : Stuck.Call Client) :
    callsLeft (cs.set k c') + c.left = callsLeft cs + c'.left := by
  induction cs generalizing k with
  | nil => cases here
  | cons b cs ih =>
    cases k with
    | zero =>
      cases Option.some.inj here
      simp only [List.set_cons_zero, callsLeft]
      omega
    | succ k =>
      have later := ih here
      simp only [List.set_cons_succ, callsLeft]
      omega

theorem callsLeft_le (cs : List (Stuck.Call Client)) : callsLeft cs ≤ 2 * cs.length := by
  induction cs with
  | nil => simp [callsLeft]
  | cons c cs ih =>
    have own := c.left_le
    simp only [callsLeft, List.length_cons]
    omega

/-- The most steps that the schedule can still take for a scrape. -/
def work (i : Nat) (t : Timetable) : Nat :=
  (match t.traffic.cycles[i]? with
    | some c => c.pool.due + if c.records.isNone then 1 else 0
    | none => 0) + callsLeft t.traffic.race.calls

theorem work_eq {i : Nat} {t : Timetable} {c : Cycle} (cycle : t.traffic.cycles[i]? = some c) :
    t.work i = c.pool.due + (if c.records.isNone then 1 else 0) +
      callsLeft t.traffic.race.calls := by
  rw [work, cycle]

/-- A scrape that the schedule has taken up: no worker is busy with a call whose caller was told. -/
structure Driven (b : Traffic) (i : Nat) (t : Timetable) : Prop where
  begun : ∃ now c mounts, Traffic.Begun b i now c mounts
  moves : Moves b t.traffic
  steady : Steady t
  handed_in : ∀ (c : Cycle), t.traffic.cycles[i]? = some c → ∀ call ∈ t.traffic.callsOf i,
    call.outcome?.isSome = true → call.client.label ∉ c.pool.busy

section

variable {b : Traffic} {i now : Nat} {c : Collector} {mounts : List Mount.Label} {t u : Timetable}

theorem Driven.orderly (driven : Driven b i t) : Traffic.Orderly t.traffic := by
  obtain ⟨_, _, _, begun⟩ := driven.begun
  obtain ⟨es, run, _⟩ := driven.moves
  exact begun.orderly.run run

theorem Driven.busy (driven : Driven b i t) :
    ∃ cyc, t.traffic.cycles[i]? = some cyc ∧ 0 < cyc.pool.workers ∧ cyc.pool.busy.Nodup ∧
      ∀ l ∈ cyc.pool.busy, l ∈ t.traffic.calledFor i := by
  obtain ⟨_, _, _, begun⟩ := driven.begun
  obtain ⟨es, run, _⟩ := driven.moves
  obtain ⟨cyc, cycle, course, called⟩ := begun.run run
  refine ⟨cyc, cycle, course.staffed, begun.busy_nodup run cycle, fun l busy => ?_⟩
  rw [called]
  exact (Pool.books_run course.pool).at_work.mem_iff.mpr (List.mem_append_right _ busy)

theorem Passed.handed_in {k : Nat} {call call' : Stuck.Call Client} (driven : Driven b i t)
    (here : t.traffic.race.calls[k]? = some call) (passed : Passed t u k call call')
    {cyc cyc' : Cycle} (cycle : t.traffic.cycles[i]? = some cyc)
    (distinct : cyc.pool.busy.Nodup) (cycle' : u.traffic.cycles[i]? = some cyc') :
    ∀ call ∈ u.traffic.callsOf i, call.outcome?.isSome = true →
      call.client.label ∉ cyc'.pool.busy := by
  intro d member told
  obtain ⟨made, mine⟩ := List.mem_filter.mp member
  rw [passed.calls] at made
  -- Either it was told before, or it is the call that has just been told.
  have before : d ∈ t.traffic.race.calls → d.client.label ∉ cyc.pool.busy := fun was =>
    driven.handed_in cyc cycle d (List.mem_filter.mpr ⟨was, mine⟩) told
  rcases passed.cycles with ⟨j, c, pool, r, his, at_j, finished, cycles⟩ | ⟨cycles, idle⟩
  · rw [cycles, List.getElem?_set] at cycle'
    split at cycle'
    · rename_i same
      subst same
      cases Option.some.inj (cycle.symm.trans at_j)
      rw [if_pos (List.getElem?_eq_some_iff.mp cycle).1] at cycle'
      cases Option.some.inj cycle'
      obtain ⟨_, rfl⟩ := Pool.finish_eq_some finished
      rcases List.mem_or_eq_of_mem_set made with was | rfl
      · exact fun still => before was (List.mem_of_mem_erase still)
      · rw [passed.later.client_eq]
        exact distinct.not_mem_erase
    · rename_i other
      cases Option.some.inj (cycle.symm.trans cycle')
      rcases List.mem_or_eq_of_mem_set made with was | rfl
      · exact before was
      · rw [passed.later.client_eq, his] at mine
        simp [other] at mine
  · rw [cycles, cycle] at cycle'
    cases Option.some.inj cycle'
    rcases List.mem_or_eq_of_mem_set made with was | rfl
    · exact before was
    · rw [passed.later.client_eq] at mine ⊢
      have his : call.client.cycle = some i := by simpa using mine
      cases untold : call.outcome? with
      | none => exact idle untold i cyc his cycle
      | some o =>
        have his_call : call ∈ t.traffic.callsOf i :=
          List.mem_filter.mpr ⟨List.mem_of_getElem? here, mine⟩
        exact driven.handed_in cyc cycle call his_call (by rw [untold]; rfl)

theorem Passed.work_lt {k : Nat} {call call' : Stuck.Call Client}
    (here : t.traffic.race.calls[k]? = some call) (passed : Passed t u k call call') :
    u.work i < t.work i := by
  have calls := callsLeft_set here call'
  have less := passed.less
  unfold work
  rw [passed.calls]
  rcases passed.cycles with ⟨j, c, pool, r, _, at_j, finished, cycles⟩ | ⟨cycles, _⟩
  · rw [cycles]
    by_cases same : j = i
    · subst same
      rw [List.getElem?_set_self (List.getElem?_eq_some_iff.mp at_j).1, at_j]
      simp only [Pool.due_of_finish finished]
      omega
    · rw [List.getElem?_set_ne same]
      omega
  · rw [cycles]
    omega

theorem step_calls_of_pool {v w : Traffic} {e : Traffic.Event}
    {pe : Pool.Event Mount.Label Stat.Record} (step : Step v e w) (here : e.pool? = some (i, pe)) :
    (w.race = v.race ∧ Pool.taken [pe] = []) ∨
      ∃ l g, pe = .took l ∧ w.race = v.race.start l.mountPoint ⟨l, g, some i⟩ := by
  cases e with
  | took j l =>
    cases Option.some.inj here
    obtain ⟨c, _, race⟩ := Traffic.step_took step
    exact .inr ⟨l, c.guard, rfl, race⟩
  | considered j l stuck =>
    cases Option.some.inj here
    exact .inl ⟨Traffic.step_race_same step (by simp) (by simp) (by simp), rfl⟩
  | handed j l o =>
    cases Option.some.inj here
    exact .inl ⟨Traffic.step_race_same step (by simp) (by simp) (by simp), rfl⟩
  | collected j r =>
    cases Option.some.inj here
    exact .inl ⟨Traffic.step_race_same step (by simp) (by simp) (by simp), rfl⟩
  | _ => cases here

theorem isQuiet_of_pool {e : Traffic.Event} {pe : Pool.Event Mount.Label Stat.Record}
    (here : e.pool? = some (i, pe)) : e.isQuiet = true := by
  cases e with
  | began _ _ _ => cases here
  | called _ _ => cases here
  | _ => rfl

section

variable {e : Traffic.Event} {pe : Pool.Event Mount.Label Stat.Record}

theorem Steady.of_pool (steady : Steady t) (step : Step t.traffic e u.traffic)
    (here : e.pool? = some (i, pe))
    (booked : u.appointments.length = t.appointments.length + (Pool.taken [pe]).length) :
    Steady u := by
  rcases step_calls_of_pool step here with ⟨race, none_taken⟩ | ⟨l, g, rfl, race⟩
  · constructor
    · rw [race]
      exact steady.at_rest
    · rw [booked, none_taken, race, steady.booked]
      rfl
  · constructor
    · intro call member
      rw [race] at member
      rcases List.mem_append.mp member with was | new
      · exact steady.at_rest call was
      · rw [List.mem_singleton.mp new]
        exact .inl ⟨rfl, rfl⟩
    · simp [booked, Pool.taken, race, Stuck.Race.start, steady.booked]

/-- A worker that begins with a mount has made no call for it before. -/
theorem Driven.handed_in_of_pool (driven : Driven b i t) (step : Step t.traffic e u.traffic)
    (here : e.pool? = some (i, pe)) {c' : Cycle} (at_i : u.traffic.cycles[i]? = some c') :
    ∀ call ∈ u.traffic.callsOf i, call.outcome?.isSome = true →
      call.client.label ∉ c'.pool.busy := by
  obtain ⟨cyc, pool, cycle, worked, cycles⟩ := Traffic.step_pool step here
  rw [cycles, List.getElem?_set_self (List.getElem?_eq_some_iff.mp cycle).1] at at_i
  cases Option.some.inj at_i
  have before : ∀ call ∈ t.traffic.callsOf i, call.outcome?.isSome = true →
      call.client.label ∉ cyc.pool.busy := driven.handed_in cyc cycle
  intro call member told busy
  rcases step_calls_of_pool step here with ⟨race, none_taken⟩ | ⟨l, g, rfl, race⟩
  · rw [Traffic.callsOf, race] at member
    rcases worked.of_busy busy with still | rfl
    · exact before call member told still
    · simp [Pool.taken] at none_taken
  · obtain ⟨made, mine⟩ := List.mem_filter.mp member
    rw [race] at made
    rcases List.mem_append.mp made with was | new
    · have his : call ∈ t.traffic.callsOf i := List.mem_filter.mpr ⟨was, mine⟩
      rcases worked.of_busy busy with still | took
      · exact before call his told still
      · injection took with label
        cases worked with
        | take waits _ => exact driven.orderly.label_ne cycle waits his label.symm
    · rw [List.mem_singleton.mp new] at told
      cases told

theorem work_lt_of_pool (step : Step t.traffic e u.traffic) (here : e.pool? = some (i, pe))
    (own : ∀ l r, pe ≠ .finished l r) : u.work i < t.work i := by
  obtain ⟨cyc, pool, cycle, worked, cycles⟩ := Traffic.step_pool step here
  have cycle' : u.traffic.cycles[i]? = some { cyc with pool } := by
    rw [cycles, List.getElem?_set_self (List.getElem?_eq_some_iff.mp cycle).1]
  have less := worked.due_lt own
  rw [work_eq cycle, work_eq cycle']
  rcases step_calls_of_pool step here with ⟨race, none_taken⟩ | ⟨l, g, rfl, race⟩
  · rw [none_taken, List.length_nil] at less
    rw [race]
    dsimp only
    omega
  · simp only [Pool.taken, List.filterMap_cons, List.filterMap_nil, List.length_cons,
      List.length_nil] at less
    simp only [race, Stuck.Race.start, callsLeft_append, callsLeft]
    have new := Stuck.Call.left_le
      ({ path := l.mountPoint, client := ⟨l, g, some i⟩ } : Stuck.Call Client)
    omega

theorem Driven.own_step (driven : Driven b i t) (step : Step t.traffic e u.traffic)
    (here : e.pool? = some (i, pe)) (own : ∀ l r, pe ≠ .finished l r)
    (booked : u.appointments.length = t.appointments.length + (Pool.taken [pe]).length) :
    Driven b i u ∧ u.work i < t.work i :=
  ⟨⟨driven.begun, driven.moves.step step (isQuiet_of_pool here),
    driven.steady.of_pool step here booked, fun _ at_i => driven.handed_in_of_pool step here at_i⟩,
    work_lt_of_pool step here own⟩

end

theorem Driven.passed (driven : Driven b i t) (h : t.pass? = some u) :
    Driven b i u ∧ u.work i < t.work i := by
  obtain ⟨k, call, call', here, passed⟩ := pass?_passed driven.steady h
  obtain ⟨cyc, cycle, _, distinct, _⟩ := driven.busy
  exact ⟨⟨driven.begun, driven.moves.trans passed.moves, passed.steady driven.steady,
    fun c' cycle' => passed.handed_in driven here cycle distinct cycle'⟩, passed.work_lt here⟩

theorem Driven.considered (driven : Driven b i t) {v : Traffic}
    (h : t.traffic.consider? i = some v) :
    Driven b i { t with traffic := v } ∧ work i { t with traffic := v } < t.work i := by
  obtain ⟨l, stuck, step⟩ := Traffic.step_of_consider? h
  exact driven.own_step step rfl (by simp) rfl

theorem Driven.took (driven : Driven b i t) {conduct : Path → Conduct}
    (h : t.take? conduct i = some u) :
    Driven b i u ∧ u.work i < t.work i := by
  simp only [take?, Option.bind_eq_bind, Option.bind_eq_some_iff, Option.pure_def] at h
  obtain ⟨c, _, l, _, v, took, hu⟩ := h
  obtain ⟨m, step⟩ := Traffic.step_of_take? took
  have own : ∀ l r, (.took m : Pool.Event Mount.Label Stat.Record) ≠ .finished l r := by simp
  cases Option.some.inj hu
  exact driven.own_step step rfl own (by simp [appoint, Pool.taken])

theorem Driven.collected (driven : Driven b i t) {v : Traffic}
    (h : t.traffic.collect? i = some v) :
    Driven b i { t with traffic := v } ∧ work i { t with traffic := v } < t.work i := by
  obtain ⟨r, step⟩ := Traffic.step_of_collect? h
  exact driven.own_step step rfl (by simp) rfl

theorem Driven.closed (driven : Driven b i t) {v : Traffic}
    (h : t.traffic.close? t.now i = some v) :
    Driven b i { t with traffic := v } ∧ work i { t with traffic := v } < t.work i := by
  obtain ⟨records, step, _⟩ := Traffic.step_of_close? h
  obtain ⟨cyc, cycle, _, at_work, _, cycles⟩ := Traffic.step_closed step
  have bound := (List.getElem?_eq_some_iff.mp cycle).1
  have race := Traffic.step_race_same step (by simp) (by simp) (by simp)
  have cycle' : v.cycles[i]? = some { cyc with records := some records } := by
    rw [cycles, List.getElem?_set_self bound]
  refine ⟨⟨driven.begun, driven.moves.step step rfl, ⟨?_, ?_⟩, ?_⟩, ?_⟩
  · rw [race]
    exact driven.steady.at_rest
  · rw [race]
    exact driven.steady.booked
  · intro c' at_i
    cases Option.some.inj (cycle'.symm.trans at_i)
    rw [Traffic.callsOf, race]
    exact driven.handed_in cyc cycle
  · rw [work_eq cycle, work_eq cycle', race, at_work]
    simp

theorem Driven.waits (conduct : Path → Conduct) (driven : Driven b i t) {cyc : Cycle}
    (cycle : t.traffic.cycles[i]? = some cyc) (at_work : cyc.records = none)
    (no_consider : t.traffic.consider? i = none)
    (no_take : t.take? conduct i = none) (no_collect : t.traffic.collect? i = none)
    (no_close : t.traffic.close? t.now i = none) : ∃ u, t.pass? = some u := by
  obtain ⟨cyc', cycle', staffed, _, called⟩ := driven.busy
  cases Option.some.inj (cycle.symm.trans cycle')
  have unfinished : cyc.pool.isDone = false := by
    rw [Bool.eq_false_iff]
    intro done
    obtain ⟨u, closes⟩ := Traffic.close?_isSome t.now cycle done at_work
    rw [no_close] at closes
    contradiction
  cases Pool.next_of_not_isDone staffed unfinished with
  | consider next looks =>
    obtain ⟨u, considers⟩ := Traffic.consider?_isSome cycle next looks
    rw [no_consider] at considers
    contradiction
  | take handing free =>
    obtain ⟨u, takes⟩ := Traffic.take?_isSome cycle handing free
    simp [take?, cycle, handing, takes] at no_take
  | collect _ arrives =>
    obtain ⟨u, collects⟩ := Traffic.collect?_isSome cycle arrives
    rw [no_collect] at collects
    contradiction
  | @finish l busy =>
    obtain ⟨call, mine, rfl⟩ := List.mem_map.mp (called l busy)
    have made := (List.mem_filter.mp mine).1
    obtain ⟨k, here⟩ := List.mem_iff_getElem?.mp made
    rcases driven.steady.at_rest call made with ⟨_, waiting⟩ | ⟨o, told, _⟩
    · exact pass?_isSome driven.steady here waiting
    · have outcome := Stuck.Call.outcome?_eq_some.mpr told
      exact absurd busy (driven.handed_in cyc cycle call mine (by rw [outcome]; rfl))

theorem Driven.advance (conduct : Path → Conduct) (driven : Driven b i t) {cyc : Cycle}
    (cycle : t.traffic.cycles[i]? = some cyc) (at_work : cyc.records = none) :
    ∃ u, t.step? conduct i = some u ∧ Driven b i u ∧ u.work i < t.work i := by
  unfold step?
  split
  · exact ⟨_, rfl, driven.considered ‹_›⟩
  · rename_i no_consider
    split
    · exact ⟨_, rfl, driven.took ‹_›⟩
    · rename_i no_take
      split
      · exact ⟨_, rfl, driven.collected ‹_›⟩
      · rename_i no_collect
        split
        · exact ⟨_, rfl, driven.closed ‹_›⟩
        · rename_i no_close
          obtain ⟨u, passes⟩ := driven.waits conduct cycle at_work
            no_consider no_take no_collect no_close
          have unsaid : t.traffic.records? i = none := by simp [Traffic.records?, cycle, at_work]
          rw [unsaid]
          exact ⟨u, passes, driven.passed passes⟩

theorem step?_of_closed (conduct : Path → Conduct) (orderly : Traffic.Orderly t.traffic)
    {cyc : Cycle} (cycle : t.traffic.cycles[i]? = some cyc) {records : List Stat.Record}
    (closed : cyc.records = some records) : t.step? conduct i = none := by
  obtain ⟨pending, handing, _, ready⟩ :=
    Pool.isDone_iff.mp (orderly.done i cyc cycle (by rw [closed]; rfl))
  have no_consider : t.traffic.consider? i = none := by
    simp [Traffic.consider?, cycle, Pool.next?, handing, pending]
  have no_take : t.take? conduct i = none := by simp [take?, cycle, handing]
  have no_collect : t.traffic.collect? i = none := by
    simp [Traffic.collect?, cycle, Pool.collect, ready]
  have no_close : t.traffic.close? t.now i = none := by simp [Traffic.close?, cycle, closed]
  have said : t.traffic.records? i = some records := by simp [Traffic.records?, cycle, closed]
  simp [step?, no_consider, no_take, no_collect, no_close, said]

theorem drive_ends (conduct : Path → Conduct) {n : Nat} (driven : Driven b i t)
    (enough : t.work i ≤ n) :
    Driven b i (t.drive conduct i n) ∧
      ∃ records, (t.drive conduct i n).traffic.records? i = some records := by
  induction n generalizing t with
  | zero =>
    obtain ⟨cyc, cycle, _⟩ := driven.busy
    cases closed : cyc.records with
    | some records => exact ⟨driven, records, by simp [drive, Traffic.records?, cycle, closed]⟩
    | none =>
      rw [work_eq cycle, closed] at enough
      simp at enough
  | succ n ih =>
    obtain ⟨cyc, cycle, _⟩ := driven.busy
    cases closed : cyc.records with
    | some records =>
      rw [drive, step?_of_closed conduct driven.orderly cycle closed]
      exact ⟨driven, records, by simp [Traffic.records?, cycle, closed]⟩
    | none =>
      obtain ⟨u, step, driven', less⟩ := driven.advance conduct cycle closed
      rw [drive, step]
      exact ih driven' (by omega)

theorem first_length_le (c : Collector) (mounts : List Mount.Label) :
    (Mount.splitRepeated [] (c.accepted mounts)).1.length ≤ mounts.length := by
  have split := (Mount.splitRepeated_perm [] (c.accepted mounts)).length_eq
  rw [List.length_append] at split
  have accepted : (c.accepted mounts).length ≤ mounts.length := by
    rw [Collector.accepted]
    exact List.length_filter_le ..
  omega

/-- How a scrape ends in time: everything that happened was a step of its cycle or of a call, its
cycle is over, and what it returns is what its cycle says. -/
structure Ended (t : Timetable) (c : Collector) (mounts : List Mount.Label) (u : Timetable)
    (records : List Stat.Record) : Prop where
  moves : Moves (t.traffic.begin t.now c mounts) u.traffic
  steady : Steady u
  said : u.traffic.records? t.traffic.cycles.length = some records

theorem scrape_ended (conduct : Path → Conduct) (c : Collector) (mounts : List Mount.Label)
    (steady : Steady t) (orderly : Traffic.Orderly t.traffic) :
    Ended t c mounts (t.scrape conduct c mounts).1 (t.scrape conduct c mounts).2 := by
  let b := t.traffic.begin t.now c mounts
  have begun : Traffic.Begun b t.traffic.cycles.length t.now c mounts :=
    orderly.begun (.begin t.traffic t.now c mounts)
  have driven : Driven b t.traffic.cycles.length { t with traffic := b } := by
    refine ⟨⟨_, _, _, begun⟩, .refl b, ⟨?_, ?_⟩, ?_⟩
    · simpa [b] using steady.at_rest
    · simpa [b] using steady.booked
    · intro cyc cycle call _ _
      cases Option.some.inj (begun.started.symm.trans cycle)
      simp [Cycle.start, Pool.start]
  have enough : work t.traffic.cycles.length { t with traffic := b } ≤
      5 * mounts.length + 2 * t.traffic.race.calls.length + 1 := by
    have rows := first_length_le c mounts
    have calls := callsLeft_le t.traffic.race.calls
    rw [work_eq begun.started]
    simp only [b, Traffic.begin_race, Cycle.start, Pool.start, Pool.due, Option.toList_none,
      List.length_nil, Option.isNone_none, if_true]
    omega
  obtain ⟨ended, records, said⟩ := drive_ends conduct driven enough
  refine ⟨ended.moves, ended.steady, ?_⟩
  simp only [scrape]
  rw [said]
  rfl

end

end MountProbe.Timetable
