import MountProbe.Proofs.Collector.Notices
import MountProbe.Proofs.Journal.Turns

/-! The books of a log that drops nothing. As many mounts are told of as stuck as calls were given
up, and as many as free again as these calls came back. Each cycle says what it passed over, what
failed, what it left out and how many records it has. -/
namespace MountProbe

namespace Journal

/-- What a logger takes of events while it has room for them. -/
def taken (verbose : Bool) (es : List Event) : List Event :=
  es.filter (Queue.empty 1024 verbose).takes

namespace Event

theorem takes_iff (verbose : Bool) (e : Event) : (Queue.empty 1024 verbose).takes e = true ↔
    e.kind? = some .mountIgnored → verbose = true := by
  cases verbose <;> cases e <;>
    simp [Queue.takes, Queue.empty, severity, Severity.rank, kind?, entry?]

theorem ofKind_taken {k : Kind} {verbose : Bool} {es : List Event} (other : k ≠ .mountIgnored) :
    ofKind k (taken verbose es) = ofKind k es := by
  rw [ofKind, taken, List.filter_filter, ofKind]
  refine List.filter_congr fun e _ => ?_
  rw [Bool.and_eq_left_iff_imp, decide_eq_true_eq]
  intro kind
  rw [takes_iff, kind]
  exact fun same => absurd (Option.some.inj same) other

theorem ignored_taken (verbose : Bool) (es : List Event) : ofKind .mountIgnored (taken verbose es) =
    if verbose then ofKind .mountIgnored es else [] := by
  cases verbose with
  | true =>
    have all : taken true es = es :=
      List.filter_eq_self.mpr fun e _ => (takes_iff true e).mpr fun _ => rfl
    rw [all]
    rfl
  | false =>
    refine List.filter_eq_nil_iff.mpr fun e member kind => ?_
    rw [decide_eq_true_eq] at kind
    exact absurd ((takes_iff false e).mp (List.mem_filter.mp member).2 kind) Bool.false_ne_true

end Event

end Journal

namespace Traffic

open Journal (taken)
open Journal.Event (ofKind mountPoint? ofKind_append ofKind_of_all ofKind_taken)
open Stuck (Outcome Race)

/-- What is to be said of a call that was given up. -/
def givenUp (call : Stuck.Call Client) : Journal.Event :=
  .mountStuck call.client.label.mountPointText call.client.label.device call.client.label.fsType
    call.client.guard.timeoutMs

/-- What is to be said of a call that ended in an error. -/
def failure? (call : Stuck.Call Client) : Option Journal.Event :=
  match call.outcome? with
  | some (.completed (.error f)) =>
    some (.statFailed call.client.label.mountPointText call.client.label.device
      call.client.label.fsType f.code f.cause)
  | _ => none

section

variable {t u v : Traffic} {e : Event} {bs es fs : List Event} {i : Nat}

theorem filterMap_cons_toList {α β : Type} (f : α → Option β) (a : α) (as : List α) :
    (a :: as).filterMap f = (f a).toList ++ as.filterMap f := by
  cases found : f a <;> simp [found]

def noticeOf (call : Stuck.Call Client) : Option Journal.Event :=
  call.outcome?.bind fun o => notice? (call.client, o)

theorem stuck_of_calls (calls : List (Stuck.Call Client)) :
    ofKind .mountStuck (calls.filterMap noticeOf) = (calls.filter (·.hasTimedOut)).map givenUp := by
  induction calls with
  | nil => rfl
  | cons call calls ih =>
    have first : ofKind .mountStuck (noticeOf call).toList =
        if call.hasTimedOut then [givenUp call] else [] := by
      obtain ⟨path, client, probe, slot, waiter⟩ := call
      cases waiter with
      | told o => rcases o with (f | counts) | _ <;> rfl
      | _ => rfl
    rw [filterMap_cons_toList, ofKind_append, first, ih, List.filter_cons]
    split <;> rfl

theorem failed_of_calls (calls : List (Stuck.Call Client)) :
    ofKind .statFailed (calls.filterMap noticeOf) = calls.filterMap failure? := by
  induction calls with
  | nil => rfl
  | cons call calls ih =>
    have first : ofKind .statFailed (noticeOf call).toList = (failure? call).toList := by
      obtain ⟨path, client, probe, slot, waiter⟩ := call
      cases waiter with
      | told o => rcases o with (f | counts) | _ <;> rfl
      | _ => rfl
    rw [filterMap_cons_toList, filterMap_cons_toList, ofKind_append, first, ih]

theorem notices_of_reports (t : Traffic) (calls : List (Stuck.Call Client)) :
    (calls.filterMap t.reportOf).filterMap notice? =
      (calls.filter fun call => !t.isAwaited call.client).filterMap noticeOf := by
  rw [List.filterMap_filterMap, List.filterMap_filter]
  refine List.filterMap_congr fun call _ => ?_
  rw [reportOf, noticeOf]
  cases t.isAwaited call.client with
  | true => rfl
  | false => cases call.outcome? <;> rfl

theorem Orderly.isAwaited_of_closed (h : Orderly t) {client : Client} {c : Cycle}
    (mine : client.cycle = some i) (cycle : t.cycles[i]? = some c)
    (closed : c.records.isSome = true) : t.isAwaited client = false := by
  have idle := (Pool.isDone_iff.mp (h.done i c cycle closed)).2.2.1
  rw [isAwaited_of_cycle mine, busyAt_of_cycle cycle, idle]
  rfl

theorem Tidy.isAwaited_of_idle (h : Tidy t) (idle : t.isIdle = true) {call : Stuck.Call Client}
    (member : call ∈ t.race.calls) : t.isAwaited call.client = false := by
  obtain ⟨i, mine⟩ := h.owned call member
  have cycle := List.getElem?_eq_getElem (h.orderly.cycle_lt call member i mine)
  exact h.orderly.isAwaited_of_closed mine cycle
    (List.all_eq_true.mp idle _ (List.mem_of_getElem? cycle))

theorem recoveries_eq (t : Traffic) : t.recoveries =
    (t.race.calls.filter fun call => call.hasTimedOut && call.isOver).map (·.path.display) := by
  rw [recoveries, ← List.filterMap_eq_map, List.filterMap_filter]
  rfl

/-- What a log that drops nothing holds of the calls. -/
structure Balanced (t : Traffic) (sent : List Journal.Event) : Prop where
  /-- A worker that has given its call up is busy until it has said so. -/
  stuck : (ofKind .mountStuck sent).Perm
    ((t.race.calls.filter fun call => call.hasTimedOut && !t.isAwaited call.client).map givenUp)
  stuck_at_rest : t.isIdle = true →
    (ofKind .mountStuck sent).Perm ((t.race.calls.filter (·.hasTimedOut)).map givenUp)
  recovered : ((ofKind .mountRecovered sent).filterMap mountPoint?).Perm
    ((t.race.calls.filter fun call => call.hasTimedOut && call.isOver).map (·.path.display))
  /-- A call that is back has cleaned up when it is over. -/
  recovered_at_rest : (∀ call ∈ t.race.calls, call.isRunning = true ∨ call.isOver = true) →
    ((ofKind .mountRecovered sent).filterMap mountPoint?).Perm
      ((t.race.calls.filter fun call => call.hasTimedOut && !call.isRunning).map (·.path.display))
  /-- A call that cleans up says that its place is free just if it was given up. -/
  returns : ∀ k entry call u, Step t (.did k (.reported entry)) u →
    t.race.calls[k]? = some call → entry.isSome = call.hasTimedOut ∧
      if call.hasTimedOut then ∃ ms, u.events = .mountRecovered call.path.display ms :: t.events
      else u.events = t.events

theorem isRunning_of_isOver {call : Stuck.Call Client} (ended : call.isOver = true) :
    call.isRunning = false := by
  unfold Stuck.Call.isOver at ended
  unfold Stuck.Call.isRunning
  split at ended <;> simp_all

theorem Accounts.stuck_said {all : List Journal.Event} {handed : List (Client × Outcome)}
    (books : Accounts empty es t all handed) : (ofKind .mountStuck all).Perm
      ((t.race.calls.filter fun call =>
        call.hasTimedOut && !t.isAwaited call.client).map givenUp) := by
  have reports : handed.Perm t.reports := by
    simpa [Traffic.reports, empty] using books.reports.symm
  rw [books.stuck]
  refine ((reports.filterMap _).filter _).trans (.of_eq ?_)
  rw [← ofKind, Traffic.reports, notices_of_reports, stuck_of_calls, List.filter_filter]

theorem Accounts.recovered_said {all : List Journal.Event} {handed : List (Client × Outcome)}
    (books : Accounts empty es t all handed) :
    ((ofKind .mountRecovered all).filterMap mountPoint?).Perm
      ((t.race.calls.filter fun call =>
        call.hasTimedOut && call.isOver).map (·.path.display)) := by
  rw [← recoveries_eq]
  simpa [Traffic.recoveries, empty] using books.recovered.symm

theorem returns_of_reported (turns : RunInTurn es t) (heard : Heard t) {k : Nat}
    {entry : Option Stuck.Entry} {call : Stuck.Call Client}
    (step : Step t (.did k (.reported entry)) u) (here : t.race.calls[k]? = some call) :
    entry.isSome = call.hasTimedOut ∧
      if call.hasTimedOut then ∃ ms, u.events = .mountRecovered call.path.display ms :: t.events
      else u.events = t.events := by
  have known := (recoveries_of_reported (tidy_of_turns turns) turns.run step here).1
  obtain ⟨said, tells, log⟩ := step_tells heard step rfl
  refine ⟨known, ?_⟩
  rw [← known, log]
  cases tells with
  | @recovered _ call' entry ms here' found =>
    cases Option.some.inj (here.symm.trans here')
    exact ⟨ms, rfl⟩
  | silent silent =>
    rw [Option.isNone_iff_eq_none.mp silent]
    rfl

theorem balanced_of_turns (verbose : Bool) (turns : RunInTurn es t)
    (fair : ∀ e ∈ es, e.isHeard = true) : Balanced t (taken verbose t.events) := by
  obtain ⟨all, listened⟩ := listened_of_turns turns fair
  obtain ⟨handed, books⟩ := listened.saying.accounts .start
  have same : ∀ k, (ofKind k t.events).Perm (ofKind k all) := by
    intro k
    rw [listened.log, show empty.events = [] from rfl, List.append_nil]
    exact (List.reverse_perm all).filter _
  have stuck := (same .mountStuck).trans books.stuck_said
  have recovered := ((same .mountRecovered).filterMap _).trans books.recovered_said
  constructor
  · rw [ofKind_taken (by decide)]
    exact stuck
  · intro idle
    rw [ofKind_taken (by decide)]
    refine stuck.trans (.of_eq (congrArg _ (List.filter_congr fun call member => ?_)))
    rw [(tidy_of_turns turns).isAwaited_of_idle idle member, Bool.not_false, Bool.and_true]
  · rw [ofKind_taken (by decide)]
    exact recovered
  · intro back
    rw [ofKind_taken (by decide)]
    refine recovered.trans (.of_eq (congrArg _ (List.filter_congr fun call member => ?_)))
    cases ended : call.isOver with
    | true => rw [isRunning_of_isOver ended, Bool.not_false]
    | false =>
      have running : call.isRunning = true := by
        simpa [ended] using back call member
      rw [running, Bool.not_true]
  · intro k entry call u step here
    exact returns_of_reported turns listened.heard step here

theorem only_last_pool (tidy : Tidy t) (length : t.cycles.length = i + 1) (step : Step t e u)
    {j : Nat} {pe : Pool.Event Mount.Label Stat.Record} (here : e.pool? = some (j, pe)) :
    j = i := by
  obtain ⟨c, pool, cycle, worked, -⟩ := step_pool step here
  have last := tidy.last j c cycle (tidy.open_of_unfinished cycle worked.not_isDone)
  omega

theorem skipped_of_step (tidy : Tidy t) (length : t.cycles.length = i + 1) (step : Step t e u) :
    e.skipped?.toList =
      ((e.admission? i).toList.filter (·.2)).map (Journal.Event.skipped ·.1) := by
  cases e with
  | considered j l stuck =>
    have same := only_last_pool tidy length step rfl
    cases stuck <;> simp [Event.skipped?, Event.admission?, same]
  | _ => rfl

theorem records_of_other (step : Step t e u) (below : i < t.cycles.length)
    (other : ∀ records, e ≠ .closed i records) : u.records? i = t.records? i := by
  have cycle := List.getElem?_eq_getElem (Nat.lt_of_lt_of_le below (step_cycles_length step))
  rw [records?, cycle, records?]
  rcases step_cycle step cycle with ⟨c, pool, pe, was, _, _, now⟩ | ⟨c, records, closes, _⟩ |
    ⟨was, _⟩ | ⟨new, _⟩
  · rw [was, now]
    rfl
  · exact absurd closes (other records)
  · rw [was]
  · omega

theorem closing_of_step (tidy : Tidy t) (length : t.cycles.length = i + 1) (step : Step t e u) :
    (u.records? i).toList.map List.length =
      (t.records? i).toList.map List.length ++ e.closing?.toList := by
  have below : i < t.cycles.length := by omega
  cases e with
  | closed j records =>
    obtain ⟨c, cycle, _, at_work, -, cycles⟩ := step_closed step
    have last := tidy.last j c cycle at_work
    obtain rfl : j = i := by omega
    have before : t.records? j = none := by
      rw [records?, cycle]
      exact at_work
    have after : u.records? j = some records := by
      rw [records?, cycles, List.getElem?_set_self below]
      rfl
    rw [before, after]
    rfl
  | _ =>
    rw [records_of_other step below (by simp)]
    exact (List.append_nil _).symm

theorem admissions_concat (i : Nat) (es : List Event) (e : Event) :
    admissions i (es ++ [e]) = admissions i es ++ (e.admission? i).toList := by
  cases found : e.admission? i <;> simp [admissions, found]

/-- What the events of a run say of the one cycle that is at work. -/
structure Undisturbed (i : Nat) (es : List Event) (t : Traffic) : Prop where
  pools : ∀ e ∈ es, ∀ j pe, e.pool? = some (j, pe) → j = i
  skipped : es.filterMap Event.skipped? =
    ((admissions i es).filter (·.2)).map (Journal.Event.skipped ·.1)
  closing : es.filterMap Event.closing? = (t.records? i).toList.map List.length

theorem undisturbed_of_run (turns : RunInTurn bs t) (run : Run t es u)
    (quiet : ∀ e ∈ es, e.isQuiet = true) (length : t.cycles.length = i + 1)
    (at_work : t.records? i = none) : u.cycles.length = i + 1 ∧ Undisturbed i es u := by
  induction run with
  | refl =>
    refine ⟨length, by simp, rfl, ?_⟩
    rw [at_work]
    rfl
  | @step v w es e run step ih =>
    have before : ∀ e ∈ es, e.isQuiet = true :=
      fun e member => quiet e (List.mem_append_left _ member)
    have silent := quiet e (List.mem_append_right _ (List.mem_singleton.mpr rfl))
    obtain ⟨length, pools, skipped, closing⟩ := ih before
    have tidy := tidy_of_turns (turns.append run before)
    refine ⟨?_, ?_, ?_, ?_⟩
    · rw [step_cycles_length_eq step, length]
      rintro now c mounts rfl
      cases silent
    · intro e' member j pe here
      rcases List.mem_append.mp member with old | new
      · exact pools e' old j pe here
      · rw [List.mem_singleton.mp new] at here
        exact only_last_pool tidy length step here
    · rw [List.filterMap_append, skipped, admissions_concat, List.filter_append, List.map_append,
        filterMap_cons_toList, skipped_of_step tidy length step]
      exact congrArg _ (List.append_nil _)
    · rw [List.filterMap_append, closing, closing_of_step tidy length step, filterMap_cons_toList]
      exact congrArg _ (List.append_nil _)

theorem reports_of_cycle (t : Traffic) (i : Nat) :
    t.reports.filter (·.1.cycle = some i) = (t.callsOf i).filterMap t.reportOf := by
  rw [reports, callsOf]
  induction t.race.calls with
  | nil => rfl
  | cons call calls ih =>
    have own : (t.reportOf call).toList.filter (·.1.cycle = some i) =
        if call.client.cycle = some i then (t.reportOf call).toList else [] := by
      rw [reportOf]
      split
      · simp
      · cases call.outcome? with
        | none => simp
        | some o => by_cases mine : call.client.cycle = some i <;> simp [mine]
    rw [filterMap_cons_toList, List.filter_append, ih, own, List.filter_cons]
    by_cases mine : call.client.cycle = some i
    · simp only [mine, if_true, decide_true, filterMap_cons_toList]
    · simp only [mine, if_false, decide_false, Bool.false_eq_true, List.nil_append]

theorem Accounts.of_cycle {said : List Journal.Event} {handed : List (Client × Outcome)}
    (books : Accounts t es u said handed) (orderly : Orderly u) (none_yet : t.callsOf i = [])
    (undisturbed : Undisturbed i es u) {records : List Stat.Record}
    (over_now : u.records? i = some records) :
    (handed.filterMap notice?).Perm ((u.callsOf i).filterMap noticeOf) := by
  have own : handed.filter (·.1.cycle = some i) = handed := by
    refine List.filter_eq_self.mpr fun p member => ?_
    obtain ⟨j, l, cycle, here⟩ := books.by_cycles p member
    rw [cycle, undisturbed.pools _ here j _ rfl]
    exact decide_eq_true rfl
  have reported := books.reports.filter (·.1.cycle = some i)
  rw [reports_of_cycle, List.filter_append, own, reports_of_cycle, none_yet] at reported
  obtain ⟨c, cycle, closed⟩ := Option.bind_eq_some_iff.mp over_now
  have heard_of : ((u.callsOf i).filter fun call => !u.isAwaited call.client) = u.callsOf i := by
    refine List.filter_eq_self.mpr fun call member => ?_
    have mine : call.client.cycle = some i := by simpa using (List.mem_filter.mp member).2
    rw [orderly.isAwaited_of_closed mine cycle (by simp [closed])]
    rfl
  have told := (reported.filterMap notice?).symm
  rw [notices_of_reports, heard_of] at told
  simpa using told

theorem ignored_eq (c : Collector) (mounts : List Mount.Label) : c.ignored mounts =
    ((c.verdicts mounts).filter (·.2 ≠ .accepted)).map fun verdict =>
      .mountIgnored verdict.1.mountPointText verdict.1.fsType verdict.2.name := by
  induction mounts with
  | nil => rfl
  | cons m mounts ih =>
    have first : c.verdicts (m :: mounts) = (m, c.filters.verdict m) :: c.verdicts mounts := rfl
    rw [Collector.ignored, filterMap_cons_toList, ← Collector.ignored, ih, first, List.filter_cons]
    cases c.filters.verdict m <;> rfl

/-- What a cycle sends. -/
structure CycleSent (verbose : Bool) (c : Collector) (mounts : List Mount.Label) (i : Nat)
    (es : List Event) (t : Traffic) (sent : List Journal.Event) : Prop where
  ignored : ofKind .mountIgnored sent = if verbose then
    ((c.verdicts mounts).filter (·.2 ≠ .accepted)).map fun verdict =>
      .mountIgnored verdict.1.mountPointText verdict.1.fsType verdict.2.name else []
  skipped : ofKind .mountSkipped sent = ((admissions i es).filter (·.2)).map (.skipped ·.1)
  stuck : (ofKind .mountStuck sent).Perm (((t.callsOf i).filter (·.hasTimedOut)).map givenUp)
  failed : (ofKind .statFailed sent).Perm ((t.callsOf i).filterMap failure?)
  completed : ∃ size ms,
    ofKind .scrapeComplete sent = [.scrapeCompleted (c.accepted mounts).length size ms]

theorem Scraped.length_eq {c : Collector} {mounts : List Mount.Label} {records : List Stat.Record}
    (scraped : Scraped c mounts i es t records) : records.length = (c.accepted mounts).length := by
  have rows := scraped.rows.length_eq
  rw [List.length_map, List.length_map] at rows
  rw [rows, ← verdicts_accepted, List.length_map]

theorem cycleSent_of_run (verbose : Bool) {c : Collector} {mounts : List Mount.Label}
    {now : Nat} {records : List Stat.Record} (turns : RunInTurn bs t) (heard : Heard t)
    (idle : t.isIdle = true) (logged : c.guard.logged = true)
    (begun : Step t (.began now c mounts) u) (run : Run u es v)
    (quiet : ∀ e ∈ es, e.isQuiet = true) (fair : ∀ e ∈ es, e.isHeard = true)
    (ended : v.records? t.cycles.length = some records) :
    ∃ new, v.events = new.reverse ++ t.events ∧
      CycleSent verbose c mounts t.cycles.length es v (taken verbose new) ∧
      Scraped c mounts t.cycles.length es v records := by
  have orderly := (tidy_of_turns turns).orderly
  have scraped := scraped_of_run orderly begun run ended
  have turns' := turns.step begun idle
  obtain ⟨said, tells, log⟩ := step_tells heard begun logged
  obtain rfl : said = c.ignored mounts := by
    cases tells with
    | began now c mounts => rfl
    | silent silent => cases silent
  obtain ⟨rest, listened⟩ : ∃ rest, Listened u es v rest :=
    Listened.run ⟨.refl u, rfl, heard.step begun logged⟩ run quiet fair
  obtain ⟨handed, books⟩ := listened.saying.accounts turns'
  have fresh := orderly.begun begun
  have length : u.cycles.length = t.cycles.length + 1 := by
    cases begun
    simp
  obtain ⟨-, undisturbed⟩ := undisturbed_of_run turns' run quiet length fresh.unsaid
  have orderly := (tidy_of_turns (turns'.append run quiet)).orderly
  have told := books.of_cycle orderly fresh.callsOf_eq_nil undisturbed ended
  have other : ∀ k, k ≠ .mountIgnored →
      ofKind k (taken verbose (c.ignored mounts ++ rest)) = ofKind k rest := by
    intro k different
    rw [ofKind_taken different, ofKind_append,
      Journal.Event.ofKind_of_other kind?_of_ignored (Ne.symm different)]
    rfl
  refine ⟨c.ignored mounts ++ rest, ?_, ?_, scraped⟩
  · rw [listened.log, log, List.reverse_append, List.append_assoc]
  constructor
  · rw [Journal.Event.ignored_taken, ofKind_append, listened.saying.ignored_eq quiet,
      List.append_nil, ofKind_of_all kind?_of_ignored, ignored_eq]
  · rw [other _ (by decide), listened.saying.skipped_eq]
    exact undisturbed.skipped
  · rw [other _ (by decide), books.stuck, ← stuck_of_calls]
    exact told.filter _
  · rw [other _ (by decide), books.failed, ← failed_of_calls]
    exact told.filter _
  · have completed := listened.saying.completed_eq
    rw [undisturbed.closing, ended] at completed
    rw [other _ (by decide)]
    generalize ofKind .scrapeComplete rest = closings at completed ⊢
    cases completed with
    | cons closing none_left =>
      obtain ⟨size, ms, rfl⟩ := closing
      cases none_left
      exact ⟨size, ms, by rw [← scraped.length_eq]⟩

/-- While cycles take turns, whatever their tables and whenever hung calls come back, a log that
drops nothing tells of each call that is given up, once, and once more when it has come back, and
tells of each cycle what there is to tell. -/
theorem log_balances {verbose : Bool} (turns : RunInTurn es t)
    (fair : ∀ e ∈ es, e.isHeard = true) :
    Balanced t (taken verbose t.events) ∧
      ∀ now c mounts u fs v records, Step t (.began now c mounts) u → t.isIdle = true →
        c.guard.logged = true → Run u fs v → (∀ e ∈ fs, e.isQuiet = true) →
        (∀ e ∈ fs, e.isHeard = true) → v.records? t.cycles.length = some records →
        ∃ new, v.events = new.reverse ++ t.events ∧
          CycleSent verbose c mounts t.cycles.length fs v (taken verbose new) ∧
          Scraped c mounts t.cycles.length fs v records := by
  refine ⟨balanced_of_turns verbose turns fair, ?_⟩
  intro now c mounts u fs v records begun idle logged run quiet heard ended
  obtain ⟨all, listened⟩ := listened_of_turns turns fair
  exact cycleSent_of_run verbose turns listened.heard idle logged begun run quiet heard ended

end

def loud : Collector :=
  { everything with guard := ⟨100, true⟩ }

/-- The first cycle gives its only call up, and the second one passes over the place. Then the call
comes back. -/
theorem log_balances_of_two :
    ∃ (es fs : List Event) (t v : Traffic) (new : List Journal.Event), RunInTurn es t ∧
      v.events.reverse.map (·.kind?) = [some .mountStuck, some .scrapeComplete,
        some .mountSkipped, some .scrapeComplete, some .mountRecovered] ∧
      Balanced t (taken true t.events) ∧ v.events = new.reverse ++ t.events ∧
      CycleSent true loud [nas ⟨[47, 97]⟩] 1 fs v (taken true new) := by
  have begun := RunInTurn.start.step (.begin empty 0 loud [nas ⟨[47, 97]⟩]) rfl
  have asked := ((Run.refl (empty.begin 0 loud [nas ⟨[47, 97]⟩])).step
    (.consider (i := 0) rfl rfl rfl)).step (.take (i := 0) rfl rfl rfl)
  have given_up := ((asked.step (.expire (k := 0) rfl)).step
    (.look (show Race.look? _ 5 0 = some (_, true) from rfl) rfl)).step
    (.handIn (k := 0) rfl rfl rfl rfl)
  have closed := (given_up.step (.collect (i := 0) rfl rfl rfl)).step
    (.close (show close? _ 5 0 = some _ from rfl) rfl)
  have turns := begun.append closed (by simp [Event.isQuiet])
  have again {es : List Event} {t : Traffic} (_ : RunInTurn es t) :
      Run (t.begin 9 loud [nas ⟨[47, 97]⟩]) [] (t.begin 9 loud [nas ⟨[47, 97]⟩]) := .refl _
  have passed := (((again turns).step (.consider (i := 1) rfl rfl rfl)).step
    (.collect (i := 1) rfl rfl rfl)).step (.close (show close? _ 9 1 = some _ from rfl) rfl)
  have back := (passed.step (.finish (show finish? _ 0 (.broken "late") = some _ from rfl))).step
    (.report (k := 0) rfl (show report? _ 12 0 = some _ from rfl))
  obtain ⟨balanced, cycles⟩ : Balanced _ (taken true _) ∧ _ :=
    log_balances turns (by simp [Event.isHeard, loud])
  obtain ⟨new, log, sent, -⟩ := cycles _ _ _ _ _ _ _ (.begin _ _ _ _) rfl rfl back
    (by simp [Event.isQuiet]) (by simp [Event.isHeard]) rfl
  exact ⟨_, _, _, _, new, turns, rfl, balanced, log, sent⟩

end Traffic

end MountProbe
