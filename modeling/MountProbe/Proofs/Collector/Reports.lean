import Mathlib.Data.List.Basic
import MountProbe.Proofs.Collector.Found
import MountProbe.Proofs.Collector.InTurn
import MountProbe.Proofs.Collector.Sayings
import MountProbe.Proofs.Crew.Books

namespace MountProbe

open Stuck (Outcome Race OneEach Explained)

theorem Stuck.OneEach.entry?_isSome {κ : Type} {r : Race κ} (one : OneEach r)
    (explained : Explained r) {k : Nat} {c : Stuck.Call κ} (here : r.calls[k]? = some c)
    (under_way : c.isOver = false) : (r.registry.entry? c.path).isSome = c.hasTimedOut := by
  have found : (r.registry.entry? c.path).isSome = r.registry.isStuck c.path := by
    rw [Bool.eq_iff_iff, Registry.entry?, Registry.isStuck, List.find?_isSome, List.any_eq_true]
  rw [found, Bool.eq_iff_iff]
  constructor
  · intro stuck
    obtain ⟨j, b, there, same, behind⟩ := explained c.path stuck
    by_cases own : j = k
    · subst own
      cases Option.some.inj (here.symm.trans there)
      exact (Bool.and_eq_true_iff.mp behind).1
    · rcases one.one j k b c there here own same with ended | ended
      · simp [Call.isLeftBehind, ended] at behind
      · rw [ended] at under_way
        cases under_way
  · intro late
    exact one.marked c (List.mem_of_getElem? here) (by simp [Call.isLeftBehind, late, under_way])

namespace Traffic

variable {t u v : Traffic} {e : Event} {es : List Event}

/-- The mounts that the workers of a cycle are busy with. -/
def busyAt (t : Traffic) (i : Nat) : List Mount.Label :=
  ((t.cycles[i]?).map (·.pool.busy)).getD []

/-- A worker is busy with the mount of this client. -/
def isAwaited (t : Traffic) (client : Client) : Bool :=
  client.cycle.any fun i => decide (client.label ∈ t.busyAt i)

def reportOf (t : Traffic) (call : Stuck.Call Client) : Option (Client × Outcome) :=
  if t.isAwaited call.client then none else call.outcome?.map (call.client, ·)

def reports (t : Traffic) : List (Client × Outcome) :=
  t.race.calls.filterMap t.reportOf

theorem busyAt_of_cycle {i : Nat} {c : Cycle} (cycle : t.cycles[i]? = some c) :
    t.busyAt i = c.pool.busy := by
  rw [busyAt, cycle]
  rfl

theorem busyAt_of_none {i : Nat} (none : t.cycles[i]? = none) : t.busyAt i = [] := by
  rw [busyAt, none]
  rfl

/-- Who is busy with what after a step. -/
theorem busyAt_step (step : Step t e u) (i : Nat) :
    u.busyAt i = match e.inPool? i with
      | some (.took l) => t.busyAt i ++ [l]
      | some (.finished l _) => (t.busyAt i).erase l
      | _ => t.busyAt i := by
  cases cycle : u.cycles[i]? with
  | none =>
    have gone : t.cycles[i]? = none := by
      rw [List.getElem?_eq_none_iff] at cycle ⊢
      exact Nat.le_trans (step_cycles_length step) cycle
    have elsewhere : e.inPool? i = none := by
      refine Event.inPool?_eq_none fun pe here => ?_
      obtain ⟨c, _, was, _⟩ := step_pool step here
      rw [gone] at was
      cases was
    rw [elsewhere, busyAt_of_none cycle, busyAt_of_none gone]
  | some c' =>
    rw [busyAt_of_cycle cycle]
    rcases step_cycle step cycle with ⟨c, pool, pe, was, here, worked, rfl⟩ |
      ⟨c, records, rfl, was, _, _, rfl⟩ | ⟨was, elsewhere, _⟩ | ⟨new, now, c, mounts, rfl, rfl⟩
    · rw [Event.inPool?_eq_some.mpr here, busyAt_of_cycle was]
      cases worked with
      | consider _ looked =>
        obtain ⟨_, _, _, _, _, rfl⟩ := Pool.consider_eq_some looked
        rfl
      | take waits took =>
        obtain ⟨_, handing, _, rfl⟩ := Pool.take_eq_some took
        cases Option.some.inj (waits.symm.trans handing)
        rfl
      | finish done =>
        obtain ⟨_, rfl⟩ := Pool.finish_eq_some done
        rfl
      | collect _ arrived =>
        obtain ⟨_, _, _, _, _, rfl⟩ := Pool.collect_eq_some arrived
        rfl
    · rw [busyAt_of_cycle was]
      rfl
    · rw [Event.inPool?_eq_none elsewhere, busyAt_of_cycle was]
    · rw [busyAt_of_none (by rw [new]; exact List.getElem?_eq_none (Nat.le_refl _))]
      rfl

theorem busyAt_of_other (step : Step t e u) {i : Nat} (untaken : ∀ l, e ≠ .took i l)
    (unhanded : ∀ l o, e ≠ .handed i l o) : u.busyAt i = t.busyAt i := by
  rw [busyAt_step step]
  cases e with
  | handed j l o =>
    have elsewhere : j ≠ i := fun same => unhanded l o (by rw [same])
    simp [Event.inPool?, Event.pool?, elsewhere]
  | took j l =>
    have elsewhere : j ≠ i := fun same => untaken l (by rw [same])
    simp [Event.inPool?, Event.pool?, elsewhere]
  | considered j l stuck => by_cases here : j = i <;> simp [Event.inPool?, Event.pool?, here]
  | collected j r => by_cases here : j = i <;> simp [Event.inPool?, Event.pool?, here]
  | _ => rfl

theorem busyAt_nodup (run : Run empty es t) (i : Nat) : (t.busyAt i).Nodup := by
  cases cycle : t.cycles[i]? with
  | none =>
    rw [busyAt_of_none cycle]
    exact .nil
  | some c =>
    obtain ⟨bs, fs, s, w, now, col, mounts, first, rfl, begun, rest⟩ :=
      begun_of_run run (List.getElem?_eq_some_iff.mp cycle).1
    rw [busyAt_of_cycle cycle]
    exact (((orderly_start .empty).run first).begun begun).busy_nodup rest cycle

theorem Orderly.distinct_calls (h : Orderly t) {first later : List (Stuck.Call Client)}
    {call other : Stuck.Call Client} {i : Nat} (whole : t.race.calls = first ++ call :: later)
    (below : i < t.cycles.length) (mine : call.client.cycle = some i)
    (member : other ∈ first ∨ other ∈ later) (too : other.client.cycle = some i) :
    other.client.label ≠ call.client.label := by
  have apart := h.apart i _ (List.getElem?_eq_getElem below)
  rw [List.map_append, Path.Apart, List.pairwise_append, calledFor, List.map_map, callsOf, whole,
    List.filter_append, List.filter_cons, if_pos (by simp [mine]), List.map_append,
    List.map_cons, List.pairwise_append, List.pairwise_cons] at apart
  obtain ⟨⟨-, ⟨ahead, -⟩, behind⟩, -⟩ := apart
  intro same
  rcases member with before | after
  · refine behind _ (List.mem_map_of_mem (List.mem_filter.mpr ⟨before, by simp [too]⟩)) _
      List.mem_cons_self ?_
    simp [same, Path.same_refl]
  · refine ahead _ (List.mem_map_of_mem (List.mem_filter.mpr ⟨after, by simp [too]⟩)) ?_
    simp [same, Path.same_refl]

theorem isAwaited_of_cycle {client : Client} {i : Nat} (mine : client.cycle = some i) :
    t.isAwaited client = decide (client.label ∈ t.busyAt i) := by
  rw [isAwaited, mine, Option.any_some]

theorem reportOf_congr {call : Stuck.Call Client}
    (same : ∀ i, call.client.cycle = some i →
      (call.client.label ∈ u.busyAt i ↔ call.client.label ∈ t.busyAt i)) :
    u.reportOf call = t.reportOf call := by
  have awaited : u.isAwaited call.client = t.isAwaited call.client := by
    rw [isAwaited, isAwaited]
    cases mine : call.client.cycle with
    | none => rfl
    | some i => rw [Option.any_some, Option.any_some, decide_eq_decide.mpr (same i mine)]
  rw [reportOf, reportOf, awaited]

theorem Tidy.isAwaited_of_untold (h : Tidy t) {call : Stuck.Call Client}
    (member : call ∈ t.race.calls) (untold : call.outcome? = none) :
    t.isAwaited call.client = true := by
  obtain ⟨i, mine⟩ := h.owned call member
  have cycle := List.getElem?_eq_getElem (h.orderly.cycle_lt call member i mine)
  rw [isAwaited_of_cycle mine, busyAt_of_cycle cycle, decide_eq_true_eq]
  exact h.orderly.awaited call member untold i _ mine cycle

/-- A worker hands in what its call came to, and is awaited no more. -/
theorem reports_of_handed (tidy : Tidy t) (run : Run empty es t) {i : Nat} {o : Outcome}
    {call : Stuck.Call Client} (member : call ∈ t.race.calls) (mine : call.client.cycle = some i)
    (told : call.outcome? = some o) (step : Step t (.handed i call.client.label o) u) :
    u.reports.Perm ((call.client, o) :: t.reports) := by
  obtain ⟨c, pool, cycle, worked, -⟩ := step_pool step rfl
  have busy : call.client.label ∈ t.busyAt i := by
    rw [busyAt_of_cycle cycle]
    cases worked with
    | finish done => exact (Pool.finish_eq_some done).1
  have less : u.busyAt i = (t.busyAt i).erase call.client.label := by
    rw [busyAt_step step]
    simp [Event.inPool?, Event.pool?]
  have below := (List.getElem?_eq_some_iff.mp cycle).1
  have before : t.reportOf call = none := by
    rw [reportOf, isAwaited_of_cycle mine, if_pos (by simpa using busy)]
  have after : u.reportOf call = some (call.client, o) := by
    have gone : call.client.label ∉ u.busyAt i := by
      rw [less]
      exact (busyAt_nodup run i).not_mem_erase
    rw [reportOf, isAwaited_of_cycle mine, if_neg (by simpa using gone), told]
    rfl
  obtain ⟨first, later, whole⟩ := List.append_of_mem member
  have others : ∀ other, other ∈ first ∨ other ∈ later → u.reportOf other = t.reportOf other := by
    intro other there
    refine reportOf_congr fun j at_cycle => ?_
    by_cases same : j = i
    · subst same
      have different := tidy.orderly.distinct_calls whole below mine there at_cycle
      rw [less, List.mem_erase_of_ne different]
    · rw [busyAt_of_other step (by simp) (by simp [Ne.symm same])]
  have race := step_race_same step (by simp) (by simp) (by simp)
  have same_first : first.filterMap u.reportOf = first.filterMap t.reportOf :=
    List.filterMap_congr fun other there => others other (.inl there)
  have same_later : later.filterMap u.reportOf = later.filterMap t.reportOf :=
    List.filterMap_congr fun other there => others other (.inr there)
  rw [reports, reports, race, whole, List.filterMap_append, List.filterMap_append,
    List.filterMap_cons_some after, List.filterMap_cons_none before, same_first, same_later]
  exact List.perm_middle

theorem reportOf_of_other (step : Step t e u) (untaken : ∀ i l, e ≠ .took i l)
    (unhanded : ∀ i l o, e ≠ .handed i l o) : u.reportOf = t.reportOf := by
  funext call
  refine reportOf_congr fun i _ => ?_
  rw [busyAt_of_other step (untaken i) (unhanded i)]

theorem reports_of_did (tidy : Tidy t) {k : Nat} {d : Race.Deed} (step : Step t (.did k d) u) :
    u.reports.Perm t.reports := by
  obtain ⟨c, c', here, does, calls, -⟩ := Race.step_did (step_did step)
  have same : t.reportOf c' = t.reportOf c := by
    rw [reportOf, reportOf, does.client_eq]
    cases told : c.outcome? with
    | none =>
      have awaited := tidy.isAwaited_of_untold (List.mem_of_getElem? here) told
      rw [if_pos awaited, if_pos awaited]
    | some o => rw [does.later.told o told]
  have changed := filterMap_set_perm t.reportOf here c'
  rw [same, List.perm_append_left_iff] at changed
  rw [reports, reportOf_of_other step (by simp) (by simp), calls]
  exact changed

/-- A worker that begins with a mount has handed in nothing of it before. -/
theorem reports_of_took (tidy : Tidy t) {i : Nat} {l : Mount.Label} (step : Step t (.took i l) u) :
    u.reports = t.reports := by
  obtain ⟨c, cycle, race⟩ := step_took step
  have waits : c.pool.handing = some l := by
    cases does_of_step step with
    | take cycle' waits _ =>
      cases Option.some.inj (cycle.symm.trans cycle')
      exact waits
  have more : u.busyAt i = t.busyAt i ++ [l] := by
    rw [busyAt_step step]
    simp [Event.inPool?, Event.pool?]
  have old : ∀ call ∈ t.race.calls, u.reportOf call = t.reportOf call := by
    intro call member
    refine reportOf_congr fun j mine => ?_
    by_cases same : j = i
    · subst same
      have new := tidy.orderly.label_ne cycle waits
        (List.mem_filter.mpr ⟨member, decide_eq_true mine⟩)
      simp [more, new]
    · rw [busyAt_of_other step (by simp [Ne.symm same]) (by simp)]
  have untold : u.reportOf { path := l.mountPoint, client := ⟨l, c.guard, some i⟩ } = none := by
    rw [reportOf]
    split <;> rfl
  rw [reports, race, Race.start, List.filterMap_append, List.filterMap_cons_none untold,
    List.filterMap_congr old, List.filterMap_nil, List.append_nil, reports]

theorem reports_of_other (tidy : Tidy t) (turn : t.InTurn e) (step : Step t e u)
    (other : ∀ i l o, e ≠ .handed i l o) : u.reports.Perm t.reports := by
  cases e with
  | handed i l o => exact absurd rfl (other i l o)
  | called l g => exact turn.elim
  | did k d => exact reports_of_did tidy step
  | took i l => exact .of_eq (reports_of_took tidy step)
  | _ =>
    have race := step_race_same step (by simp) (by simp) (by simp)
    exact .of_eq (by rw [reports, reports, race, reportOf_of_other step (by simp) (by simp)])

def recoveryOf (call : Stuck.Call Client) : Option String :=
  if call.hasTimedOut && call.isOver then some call.path.display else none

def recoveries (t : Traffic) : List String :=
  t.race.calls.filterMap recoveryOf

theorem recoveryOf_of_untold {call : Stuck.Call Client} (untold : call.hasTimedOut = false) :
    recoveryOf call = none := by
  rw [recoveryOf, untold]
  rfl

theorem recoveryOf_of_under_way {call : Stuck.Call Client} (under_way : call.isOver = false) :
    recoveryOf call = none := by
  rw [recoveryOf, under_way, Bool.and_false]
  rfl

theorem recoveryOf_of_other {c c' : Stuck.Call Client} {d : Race.Deed} (does : c.Does d c')
    (silent : ∀ entry, d ≠ .reported entry) : recoveryOf c' = recoveryOf c := by
  cases does with
  | back ending running =>
    rw [recoveryOf_of_under_way (by simp [Stuck.Call.isOver]),
      recoveryOf_of_under_way (by simp [Stuck.Call.isOver, running])]
  | reported entry _ _ => exact absurd rfl (silent entry)
  | reportedInVain entry _ _ => exact absurd rfl (silent entry)
  | expired waiting =>
    rw [recoveryOf_of_untold (by simp [Stuck.Call.hasTimedOut]),
      recoveryOf_of_untold (by simp [Stuck.Call.hasTimedOut, waiting])]
  | foundOver now expired ended =>
    rw [recoveryOf_of_untold (by simp [Stuck.Call.hasTimedOut]),
      recoveryOf_of_untold (by simp [Stuck.Call.hasTimedOut, expired])]
  | foundStuck now expired stuck =>
    have under_way : c.isOver = false := by
      rw [Bool.eq_false_iff]
      exact fun ended => stuck (Stuck.Call.isOver_iff.mp ended)
    rw [recoveryOf_of_under_way under_way]
    exact recoveryOf_of_under_way under_way
  | foundNothing nothing =>
    have untold : c.hasTimedOut = false := by
      rw [Bool.eq_false_iff]
      intro late
      simp [Stuck.Call.findsNothing, Stuck.Call.hasTimedOut_iff.mp late] at nothing
    rw [recoveryOf_of_untold (by simp [Stuck.Call.hasTimedOut]), recoveryOf_of_untold untold]
  | received waits left =>
    have untold : c.hasTimedOut = false := by
      rcases waits with waits | waits <;> simp [Stuck.Call.hasTimedOut, waits]
    rw [recoveryOf_of_untold (by simp [Stuck.Call.hasTimedOut]), recoveryOf_of_untold untold]

theorem recoveryOf_of_reported {c c' : Stuck.Call Client} {entry : Option Stuck.Entry}
    (does : c.Does (.reported entry) c') : c.isOver = false ∧
      recoveryOf c' = if c.hasTimedOut then some c.path.display else none := by
  have over_now : c'.isOver = true ∧ c'.hasTimedOut = c.hasTimedOut ∧ c'.path = c.path := by
    cases does <;> exact ⟨rfl, rfl, rfl⟩
  refine ⟨?_, ?_⟩
  · cases does with
    | reported _ back _ => simp [Stuck.Call.isOver, back]
    | reportedInVain _ back _ => simp [Stuck.Call.isOver, back]
  · rw [recoveryOf, over_now.1, over_now.2.1, over_now.2.2, Bool.and_true]

theorem step_reported {k : Nat} {entry : Option Stuck.Entry} {call : Stuck.Call Client}
    (step : Step t (.did k (.reported entry)) u) (here : t.race.calls[k]? = some call) :
    entry = t.race.registry.entry? call.path := by
  generalize found : Event.did k (.reported entry) = e at step
  cases step with
  | report call' _ =>
    injection found with same deed
    injection deed with entry
    subst same
    cases Option.some.inj (here.symm.trans call')
    exact entry
  | _ => cases found

theorem recoveries_of_reported (tidy : Tidy t) (run : Run empty es t) {k : Nat}
    {entry : Option Stuck.Entry} {call : Stuck.Call Client}
    (step : Step t (.did k (.reported entry)) u) (here : t.race.calls[k]? = some call) :
    entry.isSome = call.hasTimedOut ∧
      u.recoveries.Perm ((entry.map fun _ => call.path.display).toList ++ t.recoveries) := by
  obtain ⟨c, c', there, does, calls, -⟩ := Race.step_did (step_did step)
  cases Option.some.inj (here.symm.trans there)
  obtain ⟨_, race⟩ := run.race
  obtain ⟨under_way, after⟩ := recoveryOf_of_reported does
  have known := tidy.race.entry?_isSome (Stuck.explained_of_run race) here under_way
  rw [← step_reported step here] at known
  refine ⟨known, ?_⟩
  have changed := filterMap_set_perm recoveryOf here c'
  rw [recoveryOf_of_under_way under_way, after, ← known, ← calls] at changed
  cases entry <;> exact changed

theorem recoveries_of_other (turn : t.InTurn e) (step : Step t e u)
    (other : ∀ k entry, e ≠ .did k (.reported entry)) : u.recoveries.Perm t.recoveries := by
  have born : ∀ p (client : Client), u.race = t.race.start p client →
      u.recoveries = t.recoveries := by
    intro p client race
    rw [recoveries, race, Race.start, List.filterMap_append, recoveries]
    exact List.append_nil _
  cases e with
  | called l g => exact turn.elim
  | took i l =>
    obtain ⟨c, cycle, race⟩ := step_took step
    exact .of_eq (born _ _ race)
  | did k d =>
    obtain ⟨c, c', here, does, calls, -⟩ := Race.step_did (step_did step)
    have same := recoveryOf_of_other does fun entry reported => other k entry (by rw [reported])
    have changed := filterMap_set_perm recoveryOf here c'
    rw [same, List.perm_append_left_iff, ← calls] at changed
    exact changed
  | _ =>
    have race := step_race_same step (by simp) (by simp) (by simp)
    exact .of_eq (by rw [recoveries, race]; rfl)

end Traffic

end MountProbe
