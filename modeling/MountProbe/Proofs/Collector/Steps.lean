import MountProbe.Collector.Traffic
import MountProbe.Proofs.Pool.Books
import MountProbe.Proofs.Stuck.Steps

namespace MountProbe.Traffic

open Stuck (Race Outcome)

@[simp] theorem log_race (t : Traffic) (g : Guard) (e : Journal.Event) :
    (t.log g e).race = t.race := by
  unfold log
  split <;> rfl

@[simp] theorem log_cycles (t : Traffic) (g : Guard) (e : Journal.Event) :
    (t.log g e).cycles = t.cycles := by
  unfold log
  split <;> rfl

@[simp] theorem logAll_race (t : Traffic) (g : Guard) (es : List Journal.Event) :
    (t.logAll g es).race = t.race := by
  unfold logAll
  induction es generalizing t with
  | nil => rfl
  | cons e es ih => rw [List.foldl_cons, ih, log_race]

@[simp] theorem logAll_cycles (t : Traffic) (g : Guard) (es : List Journal.Event) :
    (t.logAll g es).cycles = t.cycles := by
  unfold logAll
  induction es generalizing t with
  | nil => rfl
  | cons e es ih => rw [List.foldl_cons, ih, log_cycles]

@[simp] theorem tell_race (t : Traffic) (client : Client) (o : Outcome) :
    (t.tell client o).race = t.race := by
  unfold tell
  split
  · exact log_race t _ _
  · rfl

@[simp] theorem tell_cycles (t : Traffic) (client : Client) (o : Outcome) :
    (t.tell client o).cycles = t.cycles := by
  unfold tell
  split
  · exact log_cycles t _ _
  · rfl

@[simp] theorem begin_race (t : Traffic) (now : Nat) (c : Collector) (mounts : List Mount.Label) :
    (t.begin now c mounts).race = t.race := by
  simp [begin]

@[simp] theorem begin_cycles (t : Traffic) (now : Nat) (c : Collector)
    (mounts : List Mount.Label) :
    (t.begin now c mounts).cycles = t.cycles ++ [.start now c mounts] := by
  simp [begin]

def admission (l : Mount.Label) (stuck : Bool) : Admission Stat.Record :=
  if stuck then .resolved (.stuck l) else .dispatch

/-- What happens in the pool of a cycle, if anything. -/
def Event.pool? : Event → Option (Nat × Pool.Event Mount.Label Stat.Record)
  | .considered i l stuck => some (i, .considered l (admission l stuck))
  | .took i l => some (i, .took l)
  | .handed i l o => some (i, .finished l (.ofOutcome l o))
  | .collected i r => some (i, .collected r)
  | _ => none

/-- What the steps make of the cycles, of the race and of the log. -/
inductive Does (t : Traffic) : Event → Traffic → Prop where
  | begin (now : Nat) (c : Collector) (mounts : List Mount.Label) :
    Does t (.began now c mounts) (t.begin now c mounts)
  | call (l : Mount.Label) (g : Guard) : Does t (.called l g) (t.call l g)
  /-- A dispatcher finds a mount that is stuck. -/
  | pass {i : Nat} {c : Cycle} {l : Mount.Label} {pool : Pool Mount.Label Stat.Record}
    (cycle : t.cycles[i]? = some c) (next : c.pool.next? = some l)
    (stuck : t.race.registry.isStuck l.mountPoint = true)
    (looked : c.pool.consider (.resolved (.stuck l)) = some pool) :
    Does t (.considered i l true) ((t.withPool i c pool).log c.guard (.skipped l))
  | dispatch {i : Nat} {c : Cycle} {l : Mount.Label} {pool : Pool Mount.Label Stat.Record}
    (cycle : t.cycles[i]? = some c) (next : c.pool.next? = some l)
    (free : t.race.registry.isStuck l.mountPoint = false)
    (looked : c.pool.consider .dispatch = some pool) :
    Does t (.considered i l false) (t.withPool i c pool)
  | take {i : Nat} {c : Cycle} {l : Mount.Label} {pool : Pool Mount.Label Stat.Record}
    (cycle : t.cycles[i]? = some c) (waits : c.pool.handing = some l)
    (taken : c.pool.take = some pool) :
    Does t (.took i l)
      { t.withPool i c pool with race := t.race.start l.mountPoint ⟨l, c.guard, some i⟩ }
  /-- A call takes a step that frees no place. -/
  | deed {k : Nat} {d : Race.Deed} {race : Race Client} (step : Race.Step t.race (.did k d) race)
    (unfreed : ∀ entry, d ≠ .reported (some entry)) : Does t (.did k d) { t with race }
  | free {k now : Nat} {call : Stuck.Call Client} {entry : Stuck.Entry} {race : Race Client}
    (here : t.race.calls[k]? = some call)
    (found : t.race.registry.entry? call.path = some entry)
    (step : Race.Step t.race (.did k (.reported (some entry))) race) :
    Does t (.did k (.reported (some entry))) (({ t with race }).log call.client.guard
      (.mountRecovered call.path.display (Journal.millis 0 ((now - entry.since) * 1000))))
  | handIn {i k : Nat} {c : Cycle} {call : Stuck.Call Client} {o : Outcome}
    {pool : Pool Mount.Label Stat.Record} (called : t.race.calls[k]? = some call)
    (mine : call.client.cycle = some i) (told : call.outcome? = some o)
    (cycle : t.cycles[i]? = some c)
    (finished : c.pool.finish call.client.label (.ofOutcome call.client.label o) = some pool) :
    Does t (.handed i call.client.label o) ((t.withPool i c pool).tell call.client o)
  | collect {i : Nat} {c : Cycle} {r : Stat.Record} {pool : Pool Mount.Label Stat.Record}
    (cycle : t.cycles[i]? = some c) (ready : c.pool.ready.head? = some r)
    (collected : c.pool.collect = some pool) : Does t (.collected i r) (t.withPool i c pool)
  | close {i now : Nat} {c : Cycle} {records : List Stat.Record}
    (cycle : t.cycles[i]? = some c) (done : c.pool.isDone = true) (at_work : c.records = none)
    (all : records = c.pool.results ++ Stat.Record.shared c.pool.results c.repeated) :
    Does t (.closed i records)
      (({ t with cycles := t.cycles.set i { c with records := some records } }).log c.guard
        (.scrapeCompleted records.length t.race.registry.size
          (Journal.millis 0 ((now - c.startedAt) * 1000))))
  | note (g : Guard) (e : Journal.Event) : Does t (.noted e) (t.log g e)

theorem does_of_report {t u : Traffic} {now k : Nat} {call : Stuck.Call Client}
    (here : t.race.calls[k]? = some call) (done : t.report? now k = some u) :
    Does t (.did k (.reported (t.race.registry.entry? call.path))) u := by
  simp only [report?, here, Option.bind_eq_bind, Option.bind_some] at done
  obtain ⟨⟨race, entry⟩, reported, same⟩ := Option.bind_eq_some_iff.mp done
  have opened := reported
  simp only [Race.report?, here, Option.bind_eq_bind, Option.bind_some] at opened
  obtain ⟨call', report, pair⟩ := Option.bind_eq_some_iff.mp opened
  have freed : t.race.registry.entry? call.path = entry := by
    rw [← (Stuck.Call.does_of_report none report).path_eq]
    exact congrArg Prod.snd (Option.some.inj pair)
  rw [freed]
  cases entry with
  | none =>
    cases Option.some.inj same
    exact .deed (.report reported) (by simp)
  | some entry =>
    cases Option.some.inj same
    exact .free here freed (.report reported)

theorem does_of_close {t u : Traffic} {now i : Nat} {records : List Stat.Record}
    (closed : t.close? now i = some u) (known : u.records? i = some records) :
    Does t (.closed i records) u := by
  simp only [close?, Option.bind_eq_bind] at closed
  obtain ⟨c, cycle, rest⟩ := Option.bind_eq_some_iff.mp closed
  split at rest
  · rename_i finished
    rw [Bool.and_eq_true, Option.isNone_iff_eq_none] at finished
    cases Option.some.inj rest
    have bound := (List.getElem?_eq_some_iff.mp cycle).1
    simp only [records?, log_cycles, List.getElem?_set_self bound, Option.bind_eq_bind,
      Option.bind_some, Option.some.injEq] at known
    subst known
    exact .close cycle finished.1 finished.2 rfl
  · contradiction

theorem does_of_step {t u : Traffic} {e : Event} (h : Step t e u) : Does t e u := by
  cases h with
  | begin now c mounts => exact .begin now c mounts
  | call l g => exact .call l g
  | consider cycle next considered =>
    simp only [consider?, cycle, next, Option.bind_eq_bind, Option.bind_some] at considered
    split at considered
    · rename_i stuck
      obtain ⟨pool, looked, same⟩ := Option.bind_eq_some_iff.mp considered
      cases Option.some.inj same
      rw [stuck]
      exact .pass cycle next stuck looked
    · rename_i free
      rw [Bool.not_eq_true] at free
      obtain ⟨pool, looked, same⟩ := Option.bind_eq_some_iff.mp considered
      cases Option.some.inj same
      rw [free]
      exact .dispatch cycle next free looked
  | take cycle waits took =>
    simp only [take?, cycle, waits, Option.bind_eq_bind, Option.bind_some] at took
    obtain ⟨pool, taken, same⟩ := Option.bind_eq_some_iff.mp took
    cases Option.some.inj same
    exact .take cycle waits taken
  | finish done =>
    obtain ⟨race, finished, same⟩ := Option.bind_eq_some_iff.mp done
    cases Option.some.inj same
    exact .deed (.finish finished) (by simp)
  | report here done => exact does_of_report here done
  | expire done =>
    obtain ⟨race, expired, same⟩ := Option.bind_eq_some_iff.mp done
    cases Option.some.inj same
    exact .deed (.expire expired) (by simp)
  | look looked done =>
    simp only [look?, looked, Option.bind_eq_bind, Option.bind_some] at done
    cases Option.some.inj done
    exact .deed (.look looked) (by simp)
  | receive received done =>
    simp only [receive?, received, Option.bind_eq_bind, Option.bind_some] at done
    cases Option.some.inj done
    exact .deed (.receive received) (by simp)
  | handIn called mine told handed =>
    simp only [handIn?, called, mine, told, Option.bind_eq_bind, Option.bind_some] at handed
    obtain ⟨c, cycle, rest⟩ := Option.bind_eq_some_iff.mp handed
    obtain ⟨pool, finished, same⟩ := Option.bind_eq_some_iff.mp rest
    cases Option.some.inj same
    exact .handIn called mine told cycle finished
  | collect cycle ready collected =>
    simp only [collect?, cycle, Option.bind_eq_bind, Option.bind_some] at collected
    obtain ⟨pool, arrived, same⟩ := Option.bind_eq_some_iff.mp collected
    cases Option.some.inj same
    exact .collect cycle ready arrived
  | close closed known => exact does_of_close closed known
  | note g e => exact .note g e

theorem step_pool {t u : Traffic} {e : Event} {i : Nat}
    {pe : Pool.Event Mount.Label Stat.Record} (h : Step t e u) (here : e.pool? = some (i, pe)) :
    ∃ c pool, t.cycles[i]? = some c ∧ Pool.Step c.pool pe pool ∧
      u.cycles = t.cycles.set i { c with pool } := by
  cases does_of_step h with
  | @pass _ c _ pool cycle next _ looked =>
    cases Option.some.inj here
    exact ⟨c, pool, cycle, .consider next looked, by simp [withPool]⟩
  | @dispatch _ c _ pool cycle next _ looked =>
    cases Option.some.inj here
    exact ⟨c, pool, cycle, .consider next looked, rfl⟩
  | @take _ c _ pool cycle waits taken =>
    cases Option.some.inj here
    exact ⟨c, pool, cycle, .take waits taken, rfl⟩
  | @handIn _ _ c _ _ pool _ _ _ cycle finished =>
    cases Option.some.inj here
    exact ⟨c, pool, cycle, .finish finished, by simp [withPool]⟩
  | @collect _ c _ pool cycle ready collected =>
    cases Option.some.inj here
    exact ⟨c, pool, cycle, .collect ready collected, rfl⟩
  | _ => cases here

theorem step_closed {t u : Traffic} {i : Nat} {records : List Stat.Record}
    (h : Step t (.closed i records) u) :
    ∃ c, t.cycles[i]? = some c ∧ c.pool.isDone = true ∧ c.records = none ∧
      records = c.pool.results ++ Stat.Record.shared c.pool.results c.repeated ∧
      u.cycles = t.cycles.set i { c with records := some records } := by
  cases does_of_step h with
  | close cycle done at_work all => exact ⟨_, cycle, done, at_work, all, log_cycles _ _ _⟩

theorem step_cycles_same {t u : Traffic} {e : Event} (h : Step t e u) (no_pool : e.pool? = none)
    (no_start : ∀ now c mounts, e ≠ .began now c mounts)
    (no_end : ∀ i records, e ≠ .closed i records) : u.cycles = t.cycles := by
  cases does_of_step h with
  | begin now c mounts => exact absurd rfl (no_start now c mounts)
  | close _ _ _ _ => exact absurd rfl (no_end _ _)
  | call l g => rfl
  | deed _ _ => rfl
  | free _ _ _ => exact log_cycles _ _ _
  | note g e => exact log_cycles t g e
  | _ => cases no_pool

/-- A cycle after a step: its pool took a step, or it was closed, or it is as it was, or it has just
begun. -/
theorem step_cycle {t u : Traffic} {e : Event} {i : Nat} {c' : Cycle} (h : Step t e u)
    (cycle : u.cycles[i]? = some c') :
    (∃ c pool pe, t.cycles[i]? = some c ∧ e.pool? = some (i, pe) ∧ Pool.Step c.pool pe pool ∧
      c' = { c with pool }) ∨
    (∃ c records, e = .closed i records ∧ t.cycles[i]? = some c ∧ c.pool.isDone = true ∧
      records = c.pool.results ++ Stat.Record.shared c.pool.results c.repeated ∧
      c' = { c with records := some records }) ∨
    (t.cycles[i]? = some c' ∧ (∀ pe, e.pool? ≠ some (i, pe)) ∧
      ∀ records, e ≠ .closed i records) ∨
    (i = t.cycles.length ∧ ∃ now c mounts, e = .began now c mounts ∧
      c' = .start now c mounts) := by
  cases hp : e.pool? with
  | some at_pool =>
    obtain ⟨j, pe⟩ := at_pool
    obtain ⟨c, pool, was, step, cycles⟩ := step_pool h hp
    rw [cycles, List.getElem?_set] at cycle
    split at cycle
    · rename_i same
      subst same
      rw [if_pos (List.getElem?_eq_some_iff.mp was).1] at cycle
      exact .inl ⟨c, pool, pe, was, rfl, step, (Option.some.inj cycle).symm⟩
    · rename_i other
      refine .inr (.inr (.inl ⟨cycle, ?_, ?_⟩))
      · intro pe' here
        exact other (congrArg Prod.fst (Option.some.inj here))
      · rintro records rfl
        cases hp
  | none =>
    cases e with
    | began now c mounts =>
      cases h
      rw [begin_cycles, List.getElem?_append] at cycle
      split at cycle
      · exact .inr (.inr (.inl ⟨cycle, by simp, by simp⟩))
      · rename_i high
        have at_end : i - t.cycles.length = 0 := by
          simpa using (List.getElem?_eq_some_iff.mp cycle).1
        rw [at_end] at cycle
        exact .inr (.inr (.inr
          ⟨by omega, now, c, mounts, rfl, (Option.some.inj cycle).symm⟩))
    | closed j records =>
      obtain ⟨c, was, done, _, all, cycles⟩ := step_closed h
      rw [cycles, List.getElem?_set] at cycle
      split at cycle
      · rename_i same
        subst same
        rw [if_pos (List.getElem?_eq_some_iff.mp was).1] at cycle
        exact .inr (.inl ⟨c, records, rfl, was, done, all, (Option.some.inj cycle).symm⟩)
      · rename_i other
        refine .inr (.inr (.inl ⟨cycle, by simp, ?_⟩))
        intro records' he
        injection he with he
        exact other he
    | _ =>
      rw [step_cycles_same h hp (by simp) (by simp)] at cycle
      exact .inr (.inr (.inl ⟨cycle, by simp, by simp⟩))

theorem step_did {t u : Traffic} {k : Nat} {d : Race.Deed} (h : Step t (.did k d) u) :
    Race.Step t.race (.did k d) u.race := by
  cases does_of_step h with
  | deed step _ => exact step
  | free _ _ step =>
    rw [log_race]
    exact step

theorem step_took {t u : Traffic} {i : Nat} {l : Mount.Label} (h : Step t (.took i l) u) :
    ∃ c, t.cycles[i]? = some c ∧
      u.race = t.race.start l.mountPoint ⟨l, c.guard, some i⟩ := by
  cases does_of_step h with
  | take cycle _ _ => exact ⟨_, cycle, rfl⟩

theorem step_called {t u : Traffic} {l : Mount.Label} {g : Guard} (h : Step t (.called l g) u) :
    u.race = t.race.start l.mountPoint ⟨l, g, none⟩ := by
  cases h
  rfl

theorem step_race_same {t u : Traffic} {e : Event} (h : Step t e u)
    (no_deed : ∀ k d, e ≠ .did k d) (no_take : ∀ i l, e ≠ .took i l)
    (no_call : ∀ l g, e ≠ .called l g) : u.race = t.race := by
  cases does_of_step h with
  | begin now c mounts => exact begin_race t now c mounts
  | call l g => exact absurd rfl (no_call l g)
  | take _ _ _ => exact absurd rfl (no_take _ _)
  | deed _ _ => exact absurd rfl (no_deed _ _)
  | free _ _ _ => exact absurd rfl (no_deed _ _)
  | dispatch _ _ _ _ => rfl
  | collect _ _ _ => rfl
  | pass _ _ _ _ => exact log_race _ _ _
  | handIn _ _ _ _ _ => exact tell_race _ _ _
  | close _ _ _ _ => exact log_race _ _ _
  | note g e => exact log_race t g e

theorem step_race {t u : Traffic} {e : Event} (h : Step t e u) :
    u.race = t.race ∨ ∃ deed, Race.Step t.race deed u.race := by
  cases e with
  | did k d => exact .inr ⟨_, step_did h⟩
  | took i l =>
    obtain ⟨c, _, race⟩ := step_took h
    rw [race]
    exact .inr ⟨_, .start _ _ _⟩
  | called l g =>
    rw [step_called h]
    exact .inr ⟨_, .start _ _ _⟩
  | _ => exact .inl (step_race_same h (by simp) (by simp) (by simp))

theorem step_calls {t u : Traffic} {e : Event} {call' : Stuck.Call Client} (h : Step t e u)
    (member : call' ∈ u.race.calls) :
    (∃ call ∈ t.race.calls, call.Later call') ∨
      (∃ i l c, e = .took i l ∧ t.cycles[i]? = some c ∧
        call' = { path := l.mountPoint, client := ⟨l, c.guard, some i⟩ }) ∨
      ∃ l g, e = .called l g ∧ call' = { path := l.mountPoint, client := ⟨l, g, none⟩ } := by
  cases e with
  | took i l =>
    obtain ⟨c, here, race⟩ := step_took h
    rw [race] at member
    rcases List.mem_append.mp member with before | new
    · exact .inl ⟨call', before, .refl call'⟩
    · exact .inr (.inl ⟨i, l, c, rfl, here, List.mem_singleton.mp new⟩)
  | called l g =>
    rw [step_called h] at member
    rcases List.mem_append.mp member with before | new
    · exact .inl ⟨call', before, .refl call'⟩
    · exact .inr (.inr ⟨l, g, rfl, List.mem_singleton.mp new⟩)
  | did k d =>
    obtain ⟨i, here⟩ := List.mem_iff_getElem?.mp member
    rcases Race.call_before (step_did h) here with ⟨call, was, later⟩ | ⟨_, p, client, he, _⟩
    · exact .inl ⟨call, List.mem_of_getElem? was, later⟩
    · cases he
  | _ =>
    rw [step_race_same h (by simp) (by simp) (by simp)] at member
    exact .inl ⟨call', member, .refl call'⟩

theorem Run.race {t u : Traffic} {es : List Event} (run : Run t es u) :
    ∃ deeds, Race.Run t.race deeds u.race := by
  induction run with
  | refl => exact ⟨[], .refl _⟩
  | step _ step ih =>
    obtain ⟨deeds, before⟩ := ih
    rcases step_race step with same | ⟨deed, now⟩
    · rw [same]
      exact ⟨deeds, before⟩
    · exact ⟨_, before.step now⟩

theorem Run.append {t u v : Traffic} {es fs : List Event} (first : Run t es u) (last : Run u fs v) :
    Run t (es ++ fs) v := by
  induction last with
  | refl => simpa using first
  | step _ step ih =>
    rw [← List.append_assoc]
    exact ih.step step

theorem step_cycles_length_eq {t u : Traffic} {e : Event} (h : Step t e u)
    (no_start : ∀ now c mounts, e ≠ .began now c mounts) :
    u.cycles.length = t.cycles.length := by
  cases hp : e.pool? with
  | some at_pool =>
    obtain ⟨c, pool, _, _, cycles⟩ := step_pool h hp
    rw [cycles, List.length_set]
  | none =>
    cases e with
    | closed i records =>
      obtain ⟨c, _, _, _, _, cycles⟩ := step_closed h
      rw [cycles, List.length_set]
    | _ => rw [step_cycles_same h hp no_start (by simp)]

theorem step_cycles_length {t u : Traffic} {e : Event} (h : Step t e u) :
    t.cycles.length ≤ u.cycles.length := by
  cases e with
  | began now c mounts =>
    cases h
    simp
  | _ => exact Nat.le_of_eq (step_cycles_length_eq h (by simp)).symm

/-- It neither begins a cycle nor makes a call outside of one. -/
def Event.isQuiet : Event → Bool
  | began _ _ _ => false
  | called _ _ => false
  | _ => true

def Moves (t u : Traffic) : Prop :=
  ∃ es, Run t es u ∧ ∀ e ∈ es, e.isQuiet = true

theorem Moves.refl (t : Traffic) : Moves t t :=
  ⟨[], .refl t, by simp⟩

theorem Moves.step {t u v : Traffic} {e : Event} (moves : Moves t u) (step : Step u e v)
    (quiet : e.isQuiet = true) : Moves t v := by
  obtain ⟨es, run, all_quiet⟩ := moves
  refine ⟨es ++ [e], run.step step, ?_⟩
  intro e' member
  rcases List.mem_append.mp member with before | now
  · exact all_quiet e' before
  · rw [List.mem_singleton.mp now]
    exact quiet

theorem Moves.trans {t u v : Traffic} (first : Moves t u) (last : Moves u v) : Moves t v := by
  obtain ⟨es, run, quiet⟩ := last
  induction run with
  | refl => exact first
  | step _ step ih =>
    exact (ih fun e member => quiet e (List.mem_append_left _ member)).step step
      (quiet _ (List.mem_append_right _ (List.mem_singleton.mpr rfl)))

theorem step_records {t u : Traffic} {e : Event} {i : Nat} {records : List Stat.Record}
    (h : Step t e u) (said : t.records? i = some records) : u.records? i = some records := by
  obtain ⟨c, cycle, said⟩ := Option.bind_eq_some_iff.mp said
  have below : i < u.cycles.length :=
    Nat.lt_of_lt_of_le (List.getElem?_eq_some_iff.mp cycle).1 (step_cycles_length h)
  have cycle' := List.getElem?_eq_getElem below
  rw [records?, cycle']
  rcases step_cycle h cycle' with ⟨b, pool, pe, was, _, _, now⟩ |
    ⟨b, records', rfl, was, _, _, now⟩ | ⟨was, _⟩ | ⟨new, _⟩
  · cases Option.some.inj (cycle.symm.trans was)
    rw [now]
    exact said
  · obtain ⟨b', was', _, at_work, _⟩ := step_closed h
    cases Option.some.inj (was.symm.trans was')
    cases Option.some.inj (cycle.symm.trans was)
    rw [at_work] at said
    cases said
  · cases Option.some.inj (cycle.symm.trans was)
    exact said
  · rw [new, List.getElem?_eq_none (Nat.le_refl _)] at cycle
    cases cycle

theorem Moves.records {t u : Traffic} {i : Nat} {records : List Stat.Record} (moves : Moves t u)
    (said : t.records? i = some records) : u.records? i = some records := by
  obtain ⟨es, run, -⟩ := moves
  induction run with
  | refl => exact said
  | step _ step ih => exact step_records step ih

theorem Moves.cycles_length {t u : Traffic} (moves : Moves t u) :
    u.cycles.length = t.cycles.length := by
  obtain ⟨es, run, quiet⟩ := moves
  induction run with
  | refl => rfl
  | @step v w es e _ step ih =>
    have before := ih fun e' member => quiet e' (List.mem_append_left _ member)
    have silent := quiet e (List.mem_append_right _ (List.mem_singleton.mpr rfl))
    rw [← before]
    refine step_cycles_length_eq step ?_
    rintro now c mounts rfl
    cases silent

end MountProbe.Traffic
