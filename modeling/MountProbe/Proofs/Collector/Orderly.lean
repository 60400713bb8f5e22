import MountProbe.Proofs.Collector.Course
import MountProbe.Proofs.Collector.Rows
import MountProbe.Proofs.Stuck.OneCall

namespace MountProbe.Traffic

open Stuck (OneEach Race)

/-- Every call is on the mount point of its client, whose cycle has begun. A cycle makes one call on
a place, and while the caller is untold one of its workers is busy with it. -/
structure Orderly (t : Traffic) : Prop where
  path_eq : ∀ call ∈ t.race.calls, call.path = call.client.label.mountPoint
  cycle_lt : ∀ call ∈ t.race.calls, ∀ i, call.client.cycle = some i → i < t.cycles.length
  done : ∀ (i : Nat) (c : Cycle), t.cycles[i]? = some c → c.records.isSome = true →
    c.pool.isDone = true
  apart : ∀ (i : Nat) (c : Cycle), t.cycles[i]? = some c → Path.Apart
    ((t.calledFor i ++ (c.pool.handing.toList ++ c.pool.pending)).map (·.mountPoint))
  awaited : ∀ call ∈ t.race.calls, call.outcome? = none → ∀ (i : Nat) (c : Cycle),
    call.client.cycle = some i → t.cycles[i]? = some c → call.client.label ∈ c.pool.busy

theorem orderly_start (g : Stuck.Registry) : Orderly ⟨⟨g, []⟩, [], []⟩ := by
  constructor <;> simp

theorem Orderly.calledFor_eq_nil {t : Traffic} (h : Orderly t) :
    t.calledFor t.cycles.length = [] := by
  simp only [calledFor, callsOf, List.map_eq_nil_iff, List.filter_eq_nil_iff, decide_eq_true_eq]
  intro call member here
  exact Nat.lt_irrefl _ (h.cycle_lt call member _ here)

theorem Orderly.uncalled {t : Traffic} (h : Orderly t) {i : Nat} {c : Cycle}
    (cycle : t.cycles[i]? = some c) {l : Mount.Label}
    (upcoming : l ∈ c.pool.handing.toList ++ c.pool.pending) {call : Stuck.Call Client}
    (member : call ∈ t.callsOf i) : ¬ call.client.label.mountPoint.same l.mountPoint = true := by
  have apart := h.apart i c cycle
  rw [List.map_append, Path.Apart, List.pairwise_append] at apart
  exact apart.2.2 _ (List.mem_map_of_mem (List.mem_map_of_mem member)) _
    (List.mem_map_of_mem upcoming)

theorem Orderly.label_ne {t : Traffic} (h : Orderly t) {i : Nat} {c : Cycle}
    (cycle : t.cycles[i]? = some c) {l : Mount.Label} (waits : c.pool.handing = some l)
    {call : Stuck.Call Client} (member : call ∈ t.callsOf i) : call.client.label ≠ l := by
  intro same
  refine h.uncalled cycle (l := l) (by simp [waits]) member ?_
  rw [same]
  exact Path.same_refl _

theorem Orderly.calledFor_nodup {t : Traffic} (h : Orderly t) {i : Nat} {c : Cycle}
    (cycle : t.cycles[i]? = some c) : (t.calledFor i).Nodup := by
  have apart := h.apart i c cycle
  rw [List.map_append, Path.Apart, List.pairwise_append] at apart
  exact apart.1.of_map _ fun l m different equal => different (equal ▸ Path.same_refl _)

section

variable {t u : Traffic} {e : Event}

theorem step_path_eq (h : Orderly t) (step : Step t e u) {call' : Stuck.Call Client}
    (member : call' ∈ u.race.calls) : call'.path = call'.client.label.mountPoint := by
  rcases step_calls step member with ⟨was, before, later⟩ | ⟨i, l, c, _, _, rfl⟩ | ⟨l, g, _, rfl⟩
  · rw [later.path_eq, later.client_eq]
    exact h.path_eq was before
  · rfl
  · rfl

theorem step_cycle_lt (h : Orderly t) (step : Step t e u) {call' : Stuck.Call Client}
    (member : call' ∈ u.race.calls) {i : Nat} (mine : call'.client.cycle = some i) :
    i < u.cycles.length := by
  have cycles := step_cycles_length step
  rcases step_calls step member with ⟨was, before, later⟩ | ⟨j, l, c, _, here, rfl⟩ | ⟨l, g, _, rfl⟩
  · rw [later.client_eq] at mine
    exact Nat.lt_of_lt_of_le (h.cycle_lt was before i mine) cycles
  · cases Option.some.inj mine
    exact Nat.lt_of_lt_of_le (List.getElem?_eq_some_iff.mp here).1 cycles
  · cases mine

theorem step_done (h : Orderly t) (step : Step t e u) {i : Nat} {c' : Cycle}
    (cycle : u.cycles[i]? = some c') (closed : c'.records.isSome = true) :
    c'.pool.isDone = true := by
  rcases step_cycle step cycle with ⟨c, pool, pe, was, here, worked, rfl⟩ |
    ⟨c, records, _, _, done, _, rfl⟩ | ⟨was, _⟩ | ⟨_, now, c, mounts, _, rfl⟩
  · have at_work := worked.not_isDone
    rw [h.done i c was closed] at at_work
    contradiction
  · exact done
  · exact h.done i c' was closed
  · cases closed

theorem step_apart (h : Orderly t) (step : Step t e u) {i : Nat} {c' : Cycle}
    (cycle : u.cycles[i]? = some c') : Path.Apart
      ((u.calledFor i ++ (c'.pool.handing.toList ++ c'.pool.pending)).map (·.mountPoint)) := by
  rw [step_calledFor i step]
  rcases step_cycle step cycle with ⟨c, pool, pe, was, here, worked, rfl⟩ |
    ⟨c, records, rfl, was, _, _, rfl⟩ | ⟨was, elsewhere, _⟩ | ⟨new, now, c, mounts, rfl, rfl⟩
  · refine (h.apart i c was).sublist (List.Sublist.map _ ?_)
    rw [Event.inPool?_eq_some.mpr here, List.append_assoc]
    exact worked.upcoming_sublist.append_left _
  · simpa [Event.inPool?, Event.pool?, Pool.taken] using h.apart i c was
  · simpa [Event.inPool?_eq_none elsewhere, Pool.taken] using h.apart i c' was
  · rw [new, h.calledFor_eq_nil]
    exact Mount.splitRepeated_apart [] (c.accepted mounts)

theorem step_awaited (h : Orderly t) (step : Step t e u)
    {call' : Stuck.Call Client} (member : call' ∈ u.race.calls) (untold : call'.outcome? = none)
    {i : Nat} {c' : Cycle} (mine : call'.client.cycle = some i) (cycle : u.cycles[i]? = some c') :
    call'.client.label ∈ c'.pool.busy := by
  rcases step_calls step member with ⟨call, before, later⟩ | ⟨j, l, b, rfl, at_j, rfl⟩ |
    ⟨l, g, _, rfl⟩
  · rw [later.client_eq] at mine ⊢
    have not_told : call.outcome? = none := by
      cases told : call.outcome? with
      | none => rfl
      | some o => rw [later.told o told] at untold; contradiction
    rcases step_cycle step cycle with ⟨c, pool, pe, was, here, worked, rfl⟩ |
      ⟨c, records, rfl, was, _, _, rfl⟩ | ⟨was, _⟩ | ⟨new, _⟩
    · have busy := h.awaited call before not_told i c mine was
      rcases worked.busy busy with still | ⟨result, rfl⟩
      · exact still
      · -- The worker that hands in was told, and no other call of the cycle is for its mount.
        cases step with
        | @handIn _ j k done o called cycle' told handed =>
          simp only [Event.pool?, Option.some.injEq, Prod.mk.injEq] at here
          obtain ⟨rfl, finished⟩ := here
          injection finished with label _
          have apart := h.apart j c was
          rw [List.map_append, Path.Apart, List.pairwise_append, calledFor, List.map_map] at apart
          have same_call : done = call := Path.Apart.eq_of_same apart.1
            (List.mem_filter.mpr ⟨List.mem_of_getElem? called, by simp [cycle']⟩)
            (List.mem_filter.mpr ⟨before, by simp [mine]⟩)
            (by simp [label, Path.same_refl])
          rw [same_call, not_told] at told
          cases told
        | _ => cases here
    · exact h.awaited call before not_told i c mine was
    · exact h.awaited call before not_told i c' mine was
    · have begun := h.cycle_lt call before i mine
      omega
  · cases Option.some.inj mine
    rcases step_cycle step cycle with ⟨c, pool, pe, was, here, worked, rfl⟩ |
      ⟨_, _, ended, _⟩ | ⟨_, elsewhere, _⟩ | ⟨_, _, _, _, began, _⟩
    · simp only [Event.pool?, Option.some.injEq, Prod.mk.injEq, true_and] at here
      subst here
      exact worked.busy_of_took.1
    · cases ended
    · exact absurd rfl (elsewhere _)
    · cases began
  · cases mine

theorem Orderly.step (h : Orderly t) (step : Step t e u) : Orderly u where
  path_eq _ member := step_path_eq h step member
  cycle_lt _ member _ mine := step_cycle_lt h step member mine
  done _ _ cycle closed := step_done h step cycle closed
  apart _ _ cycle := step_apart h step cycle
  awaited _ member untold _ _ mine cycle := step_awaited h step member untold mine cycle

theorem Orderly.run {es : List Event} (h : Orderly t) (run : Run t es u) : Orderly u := by
  induction run with
  | refl => exact h
  | step _ step ih => exact ih.step step

/-- A cycle that has just begun. -/
structure Begun (t : Traffic) (i now : Nat) (c : Collector) (mounts : List Mount.Label) :
    Prop where
  orderly : Orderly t
  started : t.cycles[i]? = some (.start now c mounts)
  unborn : t.calledFor i = []

variable {i now : Nat} {c : Collector} {mounts : List Mount.Label}

theorem Orderly.begun (h : Orderly t) (step : Step t (.began now c mounts) u) :
    Begun u t.cycles.length now c mounts := by
  refine ⟨h.step step, ?_, ?_⟩
  · cases step
    simp
  · cases step
    rw [calledFor, callsOf, begin_race]
    exact h.calledFor_eq_nil

theorem Begun.run {es : List Event} (h : Begun t i now c mounts) (run : Run t es u) :
    ∃ cyc, u.cycles[i]? = some cyc ∧ Course i (.start now c mounts) es cyc ∧
      u.calledFor i = Pool.taken (poolEvents i es) := by
  obtain ⟨cyc, cycle, course⟩ := course_of_run h.started rfl run
  refine ⟨cyc, cycle, course, ?_⟩
  rw [calledFor_run i run, h.unborn, List.nil_append]

theorem Begun.unsaid (h : Begun t i now c mounts) : t.records? i = none := by
  rw [records?, h.started]
  rfl

theorem Begun.callsOf_eq_nil (h : Begun t i now c mounts) : t.callsOf i = [] :=
  List.map_eq_nil_iff.mp h.unborn

theorem Begun.busy_nodup {es : List Event} (h : Begun t i now c mounts) (run : Run t es u)
    {cyc : Cycle} (cycle : u.cycles[i]? = some cyc) : cyc.pool.busy.Nodup := by
  obtain ⟨cyc', cycle', course, called⟩ := h.run run
  cases Option.some.inj (cycle.symm.trans cycle')
  have distinct := (h.orderly.run run).calledFor_nodup cycle
  rw [called] at distinct
  exact (List.nodup_append.mp ((Pool.books_run course.pool).at_work.nodup_iff.mp distinct)).2.1

end

/-! What waits for a worker, and the calls on its place. -/

section

variable {t u : Traffic} {e : Event}

theorem step_handing (step : Step t e u) {i : Nat} {c' : Cycle} {l : Mount.Label}
    (cycle : u.cycles[i]? = some c') (waits : c'.pool.handing = some l) :
    (∃ c, t.cycles[i]? = some c ∧ c.pool.handing = some l ∧ ∀ m, e ≠ .took i m) ∨
      (e = .considered i l false ∧ t.race.registry.isStuck l.mountPoint = false) := by
  rcases step_cycle step cycle with ⟨c, pool, pe, was, here, worked, rfl⟩ |
    ⟨c, records, rfl, was, _, _, rfl⟩ | ⟨was, elsewhere, _⟩ | ⟨_, now, c, mounts, _, rfl⟩
  · rcases worked.handing waits with earlier | rfl
    · refine .inl ⟨c, was, earlier, ?_⟩
      rintro m rfl
      cases Option.some.inj here
      rw [worked.busy_of_took.2] at waits
      cases waits
    · cases does_of_step step with
      | dispatch _ _ free _ =>
        cases Option.some.inj here
        exact .inr ⟨rfl, free⟩
      | _ => cases here
  · exact .inl ⟨c, was, waits, by simp⟩
  · refine .inl ⟨c', was, waits, ?_⟩
    rintro m rfl
    exact elsewhere _ rfl
  · cases waits

theorem over_of_step (step : Step t e u) (not_called : ∀ l g, e ≠ .called l g) {p : Path}
    (free : ∀ call ∈ t.race.calls, call.path.same p = true → call.isOver = true)
    (untaken : ∀ i l, e = .took i l → ¬ l.mountPoint.same p = true) :
    ∀ call ∈ u.race.calls, call.path.same p = true → call.isOver = true := by
  intro call member same
  rcases step_calls step member with ⟨was, before, later⟩ | ⟨i, l, c, took, _, rfl⟩ |
    ⟨l, g, called, _⟩
  · rw [later.path_eq] at same
    exact later.ended (free was before same)
  · exact absurd same (untaken i l took)
  · exact absurd called (not_called l g)

theorem over_of_unmarked (one : OneEach t.race) {p : Path}
    (unmarked : t.race.registry.isStuck p = false) {call : Stuck.Call Client}
    (member : call ∈ t.race.calls) (same : call.path.same p = true)
    (either : call.isOver = true ∨ call.isLeftBehind = true) : call.isOver = true := by
  rcases either with ended | behind
  · exact ended
  · have stuck := Stuck.Registry.isStuck_of_same (one.marked call member behind) same
    rw [unmarked] at stuck
    contradiction

theorem oneEach_of_step (one : OneEach t.race) (step : Step t e u)
    (not_called : ∀ l g, e ≠ .called l g)
    (free : ∀ (i : Nat) (c : Cycle) (l : Mount.Label), t.cycles[i]? = some c →
      c.pool.handing = some l →
      ∀ call ∈ t.race.calls, call.path.same l.mountPoint = true → call.isOver = true) :
    OneEach u.race := by
  cases e with
  | took i l =>
    cases does_of_step step with
    | take cycle waits _ =>
      refine one.step (.start t.race _ _) fun p client started call member same => ?_
      cases started
      exact free i _ l cycle waits call member same
  | called l g => exact absurd rfl (not_called l g)
  | did k d =>
    refine one.step (step_did step) fun p client started => ?_
    cases started
  | _ =>
    rw [step_race_same step (by simp) (by simp) (by simp)]
    exact one

end

end MountProbe.Traffic
