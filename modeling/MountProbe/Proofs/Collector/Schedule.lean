import MountProbe.Collector.Timetable
import MountProbe.Proofs.Collector.Progress

namespace MountProbe

namespace Stuck.Call

variable {κ : Type}

/-- What happens at once has happened: the caller waits for a call that is running, or was told. -/
def AtRest (c : Call κ) : Prop :=
  c.probe = .running ∧ c.waiter = .waiting ∨
    ∃ o, c.waiter = .told o ∧ (c.probe = .running ∨ c.probe = .ended)

/-- What is still to come of a call: that it comes back, and that its caller is told. -/
def left (c : Call κ) : Nat :=
  (if c.isRunning then 1 else 0) + if c.outcome?.isNone then 1 else 0

theorem left_le (c : Call κ) : c.left ≤ 2 := by
  unfold left
  split <;> split <;> omega

end Stuck.Call

namespace Timetable

open Stuck (Outcome)
open Traffic (Moves Run Step)

structure Steady (t : Timetable) : Prop where
  at_rest : ∀ call ∈ t.traffic.race.calls, call.AtRest
  booked : t.appointments.length = t.traffic.race.calls.length

theorem mem_duesFrom {n time : Nat} {due : Due} {cs : List (Stuck.Call Client)}
    {as : List Appointment} (h : (time, due) ∈ duesFrom n cs as) :
    ∃ (k : Nat) (c : Stuck.Call Client) (a : Appointment), cs[k]? = some c ∧ as[k]? = some a ∧
      (time, due) ∈ duesOf (n + k) c a := by
  induction cs generalizing n as with
  | nil => cases h
  | cons c cs ih =>
    cases as with
    | nil => cases h
    | cons a as =>
      rcases List.mem_append.mp h with own | later
      · exact ⟨0, c, a, rfl, rfl, own⟩
      · obtain ⟨k, b, d, call, appointment, there⟩ := ih later
        exact ⟨k + 1, b, d, call, appointment, by rwa [Nat.add_right_comm] at there⟩

theorem duesFrom_ne_nil {n k : Nat} {cs : List (Stuck.Call Client)} {as : List Appointment}
    {c : Stuck.Call Client} (booked : as.length = cs.length) (call : cs[k]? = some c)
    (waiting : c.waiter = .waiting) : duesFrom n cs as ≠ [] := by
  induction cs generalizing n k as with
  | nil => cases call
  | cons b cs ih =>
    cases as with
    | nil => cases booked
    | cons a as =>
      intro none_due
      obtain ⟨own, later⟩ := List.append_eq_nil_iff.mp none_due
      cases k with
      | zero =>
        cases Option.some.inj call
        simp [duesOf, waiting] at own
      | succ k => exact ih (Nat.succ.inj booked) call later

theorem mem_of_earliest {best : Option (Nat × Due)} {ds : List (Nat × Due)} {d : Nat × Due}
    (h : ds.foldl earlier best = some d) : best = some d ∨ d ∈ ds := by
  induction ds generalizing best with
  | nil => exact .inl h
  | cons e ds ih =>
    rcases ih h with first | later
    · unfold earlier at first
      split at first
      · exact .inr (Option.some.inj first ▸ List.mem_cons_self)
      · split at first
        · exact .inr (Option.some.inj first ▸ List.mem_cons_self)
        · exact .inl first
    · exact .inr (List.mem_cons_of_mem _ later)

theorem earliest_isSome {best : Option (Nat × Due)} {ds : List (Nat × Due)}
    (h : best.isSome = true ∨ ds ≠ []) : (ds.foldl earlier best).isSome = true := by
  induction ds generalizing best with
  | nil => simpa using h
  | cons e ds ih =>
    refine ih (.inl ?_)
    unfold earlier
    split
    · rfl
    · split <;> rfl

theorem next?_eq_some {t : Timetable} {time : Nat} {due : Due} (h : t.next? = some (time, due)) :
    ∃ (k : Nat) (call : Stuck.Call Client) (a : Appointment),
      t.traffic.race.calls[k]? = some call ∧ t.appointments[k]? = some a ∧
        (due = .back k ∧ call.probe = .running ∨ due = .deadline k ∧ call.waiter = .waiting) := by
  rcases mem_of_earliest h with none_yet | found
  · cases none_yet
  · obtain ⟨k, call, a, here, appointment, own⟩ := mem_duesFrom found
    refine ⟨k, call, a, here, appointment, ?_⟩
    rw [Nat.zero_add] at own
    rcases List.mem_append.mp own with back | deadline
    · cases hd : a.due with
      | none => simp [hd] at back
      | some due_time =>
        cases hp : call.probe <;> simp_all [Stuck.Call.isRunning]
    · cases hw : call.waiter <;> simp_all

section

variable {t : Traffic} {k : Nat} {call : Stuck.Call Client}

theorem finish?_of_running (ending : Stuck.Ending) (here : t.race.calls[k]? = some call)
    (running : call.probe = .running) :
    ∃ u, t.finish? k ending = some u ∧ u.cycles = t.cycles ∧
      u.race.calls = t.race.calls.set k
        { call with probe := .back (ending.answer call.path) } := by
  simp [Traffic.finish?, Stuck.Race.finish?, here, Stuck.Call.finish?, running]

theorem report?_of_back (now : Nat) {call' : Stuck.Call Client}
    (here : t.race.calls[k]? = some call) (reported : call.report? = some call') :
    ∃ u, t.report? now k = some u ∧ u.cycles = t.cycles ∧
      u.race.calls = t.race.calls.set k call' := by
  simp only [Traffic.report?, Stuck.Race.report?, here, reported, Option.bind_eq_bind,
    Option.bind_some]
  cases t.race.registry.entry? call'.path <;> simp

theorem receive?_of_left {answer : Stat.Answer} (here : t.race.calls[k]? = some call)
    (waiting : call.waiter = .waiting) (left : call.slot = some answer) :
    ∃ u, t.receive? k = some u ∧ Step t (.did k (.received answer)) u ∧ u.cycles = t.cycles ∧
      u.race.calls = t.race.calls.set k
        { call with slot := none, waiter := .told (.completed answer) } := by
  have received : ∃ race, t.race.receive? k = some (race, answer) ∧ race.calls =
      t.race.calls.set k { call with slot := none, waiter := .told (.completed answer) } := by
    simp [Stuck.Race.receive?, here, Stuck.Call.receive?, Stuck.Call.findsNothing, waiting, left]
  obtain ⟨race, received, calls⟩ := received
  have done : t.receive? k = some { t with race } := by simp [Traffic.receive?, received]
  exact ⟨_, done, .receive received done, rfl, calls⟩

theorem receive?_of_told {o : Outcome} (here : t.race.calls[k]? = some call)
    (told : call.waiter = .told o) : t.receive? k = none := by
  simp [Traffic.receive?, Stuck.Race.receive?, here, Stuck.Call.receive?, Stuck.Call.findsNothing,
    told]

theorem expire?_of_waiting (here : t.race.calls[k]? = some call)
    (waiting : call.waiter = .waiting) :
    ∃ u, t.expire? k = some u ∧ u.cycles = t.cycles ∧
      u.race.calls = t.race.calls.set k { call with waiter := .expired } := by
  simp [Traffic.expire?, Stuck.Race.expire?, here, Stuck.Call.expire?, waiting]

theorem look?_of_expired (now : Nat) (here : t.race.calls[k]? = some call)
    (expired : call.waiter = .expired) (running : call.probe = .running) :
    ∃ u, t.look? now k = some u ∧ Step t (.did k (.looked now true)) u ∧ u.cycles = t.cycles ∧
      u.race.calls = t.race.calls.set k { call with waiter := .told .timedOut } := by
  have looked : ∃ race, t.race.look? now k = some (race, true) ∧
      race.calls = t.race.calls.set k { call with waiter := .told .timedOut } := by
    simp [Stuck.Race.look?, here, Stuck.Call.look?, expired, Stuck.Call.isOver, running]
  obtain ⟨race, looked, calls⟩ := looked
  have done : t.look? now k = some { t with race } := by simp [Traffic.look?, looked]
  exact ⟨_, done, .look looked done, rfl, calls⟩

theorem handedIn_spec {o : Outcome} (here : t.race.calls[k]? = some call)
    (told : call.outcome? = some o) :
    Moves t (handedIn t k) ∧ (handedIn t k).race = t.race ∧
      ((∃ i c pool r, call.client.cycle = some i ∧ t.cycles[i]? = some c ∧
          c.pool.finish call.client.label r = some pool ∧
          (handedIn t k).cycles = t.cycles.set i { c with pool }) ∨
        (handedIn t k).cycles = t.cycles ∧ ∀ (i : Nat) (c : Cycle), call.client.cycle = some i →
          t.cycles[i]? = some c → call.client.label ∉ c.pool.busy) := by
  cases done : t.handIn? k with
  | some u =>
    rw [handedIn, done, Option.getD_some]
    have opened := done
    simp only [Traffic.handIn?, here, told, Option.bind_eq_bind, Option.bind_some,
      Option.bind_eq_some_iff, Option.pure_def] at opened
    obtain ⟨i, mine, c, cycle, pool, finished, hu⟩ := opened
    have step := Step.handIn here mine told done
    cases Option.some.inj hu
    exact ⟨(Moves.refl t).step step rfl, by simp [Traffic.withPool],
      .inl ⟨i, c, pool, _, mine, cycle, finished, by simp [Traffic.withPool]⟩⟩
  | none =>
    rw [handedIn, done, Option.getD_none]
    refine ⟨.refl t, rfl, .inr ⟨rfl, fun i c mine cycle busy => ?_⟩⟩
    simp [Traffic.handIn?, here, told, mine, cycle, Pool.finish, busy] at done

end

/-- A call on whose account the schedule has let something happen. -/
structure Passed (t u : Timetable) (k : Nat) (call call' : Stuck.Call Client) : Prop where
  calls : u.traffic.race.calls = t.traffic.race.calls.set k call'
  later : call.Later call'
  at_rest : call'.AtRest
  told : call'.outcome?.isSome = true
  less : call'.left < call.left
  booked : u.appointments = t.appointments
  moves : Moves t.traffic u.traffic
  cycles : (∃ i c pool r, call.client.cycle = some i ∧ t.traffic.cycles[i]? = some c ∧
      c.pool.finish call.client.label r = some pool ∧
      u.traffic.cycles = t.traffic.cycles.set i { c with pool }) ∨
    u.traffic.cycles = t.traffic.cycles ∧ (call.outcome? = none → ∀ (i : Nat) (c : Cycle),
      call.client.cycle = some i → t.traffic.cycles[i]? = some c →
        call.client.label ∉ c.pool.busy)

theorem told_passed {t : Timetable} {v : Traffic} {k : Nat} {call call' : Stuck.Call Client}
    {o : Outcome} (here : t.traffic.race.calls[k]? = some call) (moved : Moves t.traffic v)
    (cycles : v.cycles = t.traffic.cycles)
    (calls : v.race.calls = t.traffic.race.calls.set k call') (later : call.Later call')
    (at_rest : call'.AtRest) (told : call'.outcome? = some o) (less : call'.left < call.left) :
    Passed t { t with traffic := handedIn v k } k call call' := by
  have here_v : v.race.calls[k]? = some call' := by
    rw [calls]
    exact Stuck.Race.getElem?_set_self here _
  obtain ⟨handed, race, either⟩ := handedIn_spec here_v told
  rw [later.client_eq, cycles] at either
  exact
    { calls := by rw [← calls, race]
      later := later
      at_rest := at_rest
      told := by rw [told]; rfl
      less := less
      booked := rfl
      moves := moved.trans handed
      cycles := either.imp id fun same => ⟨same.1, fun _ => same.2⟩ }

theorem comeBack_of_waiting {t : Timetable} {k : Nat} {call : Stuck.Call Client} {a : Appointment}
    (here : t.traffic.race.calls[k]? = some call) (appointment : t.appointments[k]? = some a)
    (running : call.probe = .running) (waiting : call.waiter = .waiting) :
    ∃ call', Passed t (t.comeBack k) k call call' := by
  obtain ⟨v, finished, cycles_v, calls_v⟩ := finish?_of_running a.ending here running
  have here_v := calls_v ▸ Stuck.Race.getElem?_set_self here _
  have reported : Stuck.Call.report? { call with probe := .back (a.ending.answer call.path) } =
      some { call with probe := .ended, slot := some (a.ending.answer call.path) } := by
    simp [Stuck.Call.report?, waiting]
  obtain ⟨w, reports, cycles_w, calls_w⟩ := report?_of_back t.now here_v reported
  have here_w := calls_w ▸ Stuck.Race.getElem?_set_self here_v _
  obtain ⟨x, received, step, cycles_x, calls_x⟩ := receive?_of_left here_w waiting rfl
  have moved : Moves t.traffic x :=
    (((Moves.refl t.traffic).step (.finish finished) rfl).step (.report here_v reports) rfl).step
      step rfl
  refine ⟨{ call with
    probe := .ended, slot := none, waiter := .told (.completed (a.ending.answer call.path)) }, ?_⟩
  have come_back : t.comeBack k = { t with traffic := handedIn x k } := by
    simp [comeBack, appointment, finished, reports, received]
  rw [come_back]
  refine told_passed (o := .completed (a.ending.answer call.path)) here moved ?_ ?_ ?_ ?_ rfl ?_
  · rw [cycles_x, cycles_w, cycles_v]
  · rw [calls_x, calls_w, calls_v, List.set_set, List.set_set]
  · exact ⟨rfl, rfl, fun _ => rfl, fun o told => by simp [Stuck.Call.outcome?, waiting] at told⟩
  · exact .inr ⟨_, rfl, .inr rfl⟩
  · simp [Stuck.Call.left, Stuck.Call.isRunning, Stuck.Call.outcome?, running, waiting]

theorem comeBack_of_told {t : Timetable} {k : Nat} {call : Stuck.Call Client} {a : Appointment}
    {o : Outcome} (here : t.traffic.race.calls[k]? = some call)
    (appointment : t.appointments[k]? = some a) (running : call.probe = .running)
    (told : call.waiter = .told o) : ∃ call', Passed t (t.comeBack k) k call call' := by
  obtain ⟨v, finished, cycles_v, calls_v⟩ := finish?_of_running a.ending here running
  have here_v := calls_v ▸ Stuck.Race.getElem?_set_self here _
  have reported : Stuck.Call.report? { call with probe := .back (a.ending.answer call.path) } =
      some { call with probe := .ended } := by
    simp [Stuck.Call.report?, told]
  obtain ⟨w, reports, cycles_w, calls_w⟩ := report?_of_back t.now here_v reported
  have here_w := calls_w ▸ Stuck.Race.getElem?_set_self here_v _
  have nothing := receive?_of_told here_w told
  have come_back : t.comeBack k = { t with traffic := w } := by
    simp [comeBack, appointment, finished, reports, nothing]
  rw [come_back]
  exact ⟨{ call with probe := .ended },
    { calls := by rw [calls_w, calls_v, List.set_set]
      later := ⟨rfl, rfl, fun _ => rfl, fun _ same => same⟩
      at_rest := .inr ⟨o, told, .inr rfl⟩
      told := by simp [Stuck.Call.outcome?, told]
      less := by simp [Stuck.Call.left, Stuck.Call.isRunning, Stuck.Call.outcome?, running, told]
      booked := rfl
      moves :=
        ((Moves.refl t.traffic).step (.finish finished) rfl).step (.report here_v reports) rfl
      cycles := .inr ⟨cycles_w.trans cycles_v, fun untold => by
        simp [Stuck.Call.outcome?, told] at untold⟩ }⟩

theorem giveUp_passed {t : Timetable} {k : Nat} {call : Stuck.Call Client}
    (here : t.traffic.race.calls[k]? = some call) (running : call.probe = .running)
    (waiting : call.waiter = .waiting) : ∃ call', Passed t (t.giveUp k) k call call' := by
  obtain ⟨v, expired, cycles_v, calls_v⟩ := expire?_of_waiting here waiting
  have here_v := calls_v ▸ Stuck.Race.getElem?_set_self here _
  obtain ⟨w, looked, step, cycles_w, calls_w⟩ := look?_of_expired t.now here_v rfl running
  have moved : Moves t.traffic w :=
    ((Moves.refl t.traffic).step (.expire expired) rfl).step step rfl
  have given_up : t.giveUp k = { t with traffic := handedIn w k } := by
    simp [giveUp, expired, looked]
  rw [given_up]
  refine ⟨{ call with waiter := .told .timedOut },
    told_passed (o := .timedOut) here moved ?_ ?_ ?_ ?_ rfl ?_⟩
  · rw [cycles_w, cycles_v]
  · rw [calls_w, calls_v, List.set_set]
  · exact ⟨rfl, rfl, id, fun o told => by simp [Stuck.Call.outcome?, waiting] at told⟩
  · exact .inr ⟨_, rfl, .inl running⟩
  · simp [Stuck.Call.left, Stuck.Call.isRunning, Stuck.Call.outcome?, running, waiting]

theorem pass?_passed {t u : Timetable} (steady : Steady t) (h : t.pass? = some u) :
    ∃ (k : Nat) (call call' : Stuck.Call Client), t.traffic.race.calls[k]? = some call ∧
      Passed t u k call call' := by
  obtain ⟨⟨time, due⟩, next, rest⟩ := Option.bind_eq_some_iff.mp h
  obtain ⟨k, call, a, here, appointment, kind⟩ := next?_eq_some next
  have at_rest := steady.at_rest call (List.mem_of_getElem? here)
  refine ⟨k, call, ?_⟩
  suffices passed : ∃ call', Passed { t with now := max t.now time } u k call call' by
    obtain ⟨call', calls, later, rest', told, less, booked, moves, cycles⟩ := passed
    exact ⟨call', here, calls, later, rest', told, less, booked, moves, cycles⟩
  rcases kind with ⟨rfl, running⟩ | ⟨rfl, waiting⟩
  · cases Option.some.inj rest
    rcases at_rest with ⟨_, waiting⟩ | ⟨o, told, _⟩
    · exact comeBack_of_waiting here appointment running waiting
    · exact comeBack_of_told here appointment running told
  · cases Option.some.inj rest
    rcases at_rest with ⟨running, _⟩ | ⟨o, told, _⟩
    · exact giveUp_passed here running waiting
    · rw [waiting] at told
      contradiction

theorem pass?_isSome {t : Timetable} (steady : Steady t) {k : Nat} {call : Stuck.Call Client}
    (here : t.traffic.race.calls[k]? = some call) (waiting : call.waiter = .waiting) :
    ∃ u, t.pass? = some u := by
  have found : (t.next?).isSome = true :=
    earliest_isSome (.inr (duesFrom_ne_nil steady.booked here waiting))
  obtain ⟨⟨time, due⟩, next⟩ := Option.isSome_iff_exists.mp found
  cases due <;> simp [pass?, next]

theorem Passed.steady {t u : Timetable} {k : Nat} {call call' : Stuck.Call Client}
    (h : Passed t u k call call') (steady : Steady t) : Steady u where
  at_rest b member := by
    rw [h.calls] at member
    rcases List.mem_or_eq_of_mem_set member with before | now
    · exact steady.at_rest b before
    · exact now ▸ h.at_rest
  booked := by rw [h.booked, steady.booked, h.calls, List.length_set]

end Timetable

end MountProbe
