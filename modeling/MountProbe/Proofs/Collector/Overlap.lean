import MountProbe.Proofs.Collector.Alone
import MountProbe.Proofs.Collector.InTurn
import MountProbe.Proofs.Stuck.Lifting

/-! Cycles at the same time. Whether a mount is stuck is looked at before it is handed to a worker,
and it is marked when its call is given up. So two cycles may both find a mount free and both leave
a call behind on it. There is no other way to a second call that is left behind, but for marks that
another call has taken away. -/
namespace MountProbe.Traffic

open Stuck (Race)

section

variable {t u : Traffic} {es : List Event} {e : Event}

theorem run_split {es fs : List Event} (run : Run t (es ++ e :: fs) u) :
    ∃ v w, Run t es v ∧ Step v e w ∧ Run w fs u := by
  generalize whole : es ++ e :: fs = all at run
  induction run generalizing fs with
  | refl => simp at whole
  | @step v w all f before step ih =>
    rcases List.eq_nil_or_concat fs with rfl | ⟨gs, g, rfl⟩
    · obtain ⟨rfl, same⟩ := List.append_inj' whole rfl
      cases same
      exact ⟨v, w, before, step, .refl w⟩
    · rw [List.concat_eq_append] at whole ⊢
      rw [← List.cons_append, ← List.append_assoc] at whole
      obtain ⟨earlier, last⟩ := List.append_inj' whole rfl
      cases last
      obtain ⟨v', w', first, middle, rest⟩ := ih earlier
      exact ⟨v', w', first, middle, rest.step step⟩

def Event.deed? : Event → Option (Nat × Race.Deed)
  | did k d => some (k, d)
  | _ => none

def raceDeed? {κ : Type} : Race.Event κ → Option (Nat × Race.Deed)
  | .did k d => some (k, d)
  | .started _ _ => none

/-- The race of some traffic has the same deeds in the same order. -/
theorem race_of_run (run : Run t es u) :
    ∃ fs, Race.Run t.race fs u.race ∧ fs.filterMap raceDeed? = es.filterMap Event.deed? := by
  induction run with
  | refl => exact ⟨[], .refl _, rfl⟩
  | @step v w es e _ step ih =>
    obtain ⟨fs, before, same⟩ := ih
    cases e with
    | did k d =>
      refine ⟨_, before.step (step_did step), ?_⟩
      rw [List.filterMap_append, List.filterMap_append, same]
      rfl
    | took i l =>
      obtain ⟨c, _, race⟩ := step_took step
      rw [race]
      refine ⟨_, before.step (.start _ _ _), ?_⟩
      rw [List.filterMap_append, List.filterMap_append, same]
      rfl
    | called l g =>
      rw [step_called step]
      refine ⟨_, before.step (.start _ _ _), ?_⟩
      rw [List.filterMap_append, List.filterMap_append, same]
      rfl
    | _ =>
      rw [step_race_same step (by simp) (by simp) (by simp)]
      exact ⟨fs, before, by simp [same, Event.deed?]⟩

theorem split_of_deeds {xs zs : List (Nat × Race.Deed)} {k : Nat} {d : Race.Deed}
    (h : es.filterMap Event.deed? = xs ++ (k, d) :: zs) :
    ∃ before after, es = before ++ .did k d :: after ∧ after.filterMap Event.deed? = zs := by
  obtain ⟨first, rest, rfl, -, later⟩ := List.filterMap_eq_append_iff.mp h
  obtain ⟨between, e, after, rfl, -, here, tail⟩ := List.filterMap_eq_cons_iff.mp later
  cases e with
  | did j d' =>
    cases Option.some.inj here
    exact ⟨first ++ between, after, by simp, tail⟩
  | _ => cases here

/-- What a cycle asks for was found to be free. -/
structure Admitted (es : List Event) (t : Traffic) : Prop where
  handing : ∀ (i : Nat) (c : Cycle) (l : Mount.Label), t.cycles[i]? = some c →
    c.pool.handing = some l → .considered i l false ∈ es
  called : ∀ call ∈ t.race.calls, ∀ i, call.client.cycle = some i →
    .considered i call.client.label false ∈ es

theorem Admitted.step (h : Admitted es t) (step : Step t e u) : Admitted (es ++ [e]) u := by
  constructor
  · intro i c' l cycle waits
    rcases step_handing step cycle waits with ⟨c, was, earlier, _⟩ | ⟨rfl, _⟩
    · exact List.mem_append_left _ (h.handing i c l was earlier)
    · exact List.mem_append_right _ (List.mem_singleton.mpr rfl)
  · intro call member i mine
    refine List.mem_append_left _ ?_
    rcases step_calls step member with ⟨was, before, later⟩ | ⟨j, l, c, rfl, _, rfl⟩ |
      ⟨l, g, _, rfl⟩
    · rw [later.client_eq] at mine ⊢
      exact h.called was before i mine
    · cases Option.some.inj mine
      cases step with
      | take cycle waits _ => exact h.handing _ _ _ cycle waits
    · cases mine

theorem admitted_of_run (run : Run empty es t) : Admitted es t := by
  induction run with
  | refl => constructor <;> simp [empty]
  | step _ step ih => exact ih.step step

end

/-- A call marked the place, and after that another call on the place reported. -/
def LostMark (es : List Event) (t : Traffic) (p : Path) (j : Nat) : Prop :=
  ∃ first now between k entry last c,
    es = first ++ .did j (.looked now true) :: (between ++ .did k (.reported entry) :: last) ∧
    k ≠ j ∧ t.race.calls[k]? = some c ∧ c.path.same p = true

/-- A cycle looked at a mount beside another call on its place that would be left behind, and found
it free: that call had not yet been given up, or had lost its mark. -/
def SlippedIn (es : List Event) (i : Nat) (l : Mount.Label) (other : Nat) : Prop :=
  ∃ before after s, es = before ++ .considered i l false :: after ∧ Run empty before s ∧
    ((∀ c, s.race.calls[other]? = some c → c.hasTimedOut = false) ∨
      LostMark before s l.mountPoint other)

theorem step_considered {t u : Traffic} {i : Nat} {l : Mount.Label} {stuck : Bool}
    (step : Step t (.considered i l stuck) u) : t.race.registry.isStuck l.mountPoint = stuck := by
  cases does_of_step step with
  | pass _ _ stuck _ => exact stuck
  | dispatch _ _ free _ => exact free

theorem lost_of_unmarked {es : List Event} {s : Traffic} {j : Nat} {c : Stuck.Call Client}
    {p : Path} (run : Run empty es s) (call : s.race.calls[j]? = some c)
    (behind : c.isLeftBehind = true) (same : c.path.same p = true)
    (unmarked : s.race.registry.isStuck p = false) : LostMark es s p j := by
  obtain ⟨fs, race, deeds⟩ := race_of_run run
  obtain ⟨_, now, later, rfl, silent, stuck_iff⟩ := Stuck.held_of_run race call behind
  have lifted : (Stuck.marksOn s.race c.path later).getLast? = some false := by
    refine Classical.byContradiction fun held => ?_
    have stuck := Stuck.Registry.isStuck_of_same (stuck_iff.mpr held) same
    rw [unmarked] at stuck
    contradiction
  obtain ⟨k, entry, b, reported, other, same'⟩ :=
    Stuck.report_of_marksOn (List.mem_of_getLast? lifted)
  obtain ⟨early, late, rfl⟩ := List.append_of_mem reported
  simp only [List.filterMap_append, List.filterMap_cons, raceDeed?] at deeds
  obtain ⟨first, rest, rfl, others⟩ := split_of_deeds deeds.symm
  obtain ⟨between, last, rfl, -⟩ := split_of_deeds others
  refine ⟨first, now, between, k, entry, last, b, rfl, ?_, other, Path.same_trans same' same⟩
  rintro rfl
  have own : (.reported entry : Race.Deed) ∈
      Stuck.deedsOf k (early ++ .did k (.reported entry) :: late) := by
    rw [List.append_cons, Stuck.deedsOf_append, Stuck.deedsOf_append, Stuck.deedsOf_own]
    simp
  cases silent _ own

theorem slipped_in_of_run {es : List Event} {t : Traffic} (run : Run empty es t) {i j : Nat}
    {a b : Stuck.Call Client} (at_j : t.race.calls[j]? = some a) (b_made : b ∈ t.race.calls)
    (behind : a.isLeftBehind = true) (same : a.path.same b.path = true)
    (cycle : b.client.cycle = some i) : SlippedIn es i b.client.label j := by
  have found_free := (admitted_of_run run).called b b_made i cycle
  obtain ⟨before, after, rfl⟩ := List.append_of_mem found_free
  obtain ⟨s, u, first, looked, rest⟩ := run_split run
  refine ⟨before, after, s, rfl, first, ?_⟩
  by_cases given_up : ∃ c, s.race.calls[j]? = some c ∧ c.hasTimedOut = true
  · obtain ⟨c, at_j', timed_out⟩ := given_up
    -- It is under way later on, so it was under way then.
    obtain ⟨_, race⟩ := ((Run.step (.refl s) looked).append rest).race
    obtain ⟨_, at_t, later⟩ := Race.call_after_run race at_j'
    cases Option.some.inj (at_t.symm.trans at_j)
    have under_way : c.isOver = false := by
      rw [Bool.eq_false_iff]
      intro ended
      have still := later.ended ended
      simp [Stuck.Call.isLeftBehind, still] at behind
    have path := ((orderly_start .empty).run run).path_eq b b_made
    have meets : c.path.same b.client.label.mountPoint = true := by
      rw [← later.path_eq, ← path]
      exact same
    exact .inr (lost_of_unmarked first at_j'
      (by simp [Stuck.Call.isLeftBehind, timed_out, under_way]) meets (step_considered looked))
  · refine .inl fun c at_j' => ?_
    rw [Bool.eq_false_iff]
    exact fun timed_out => given_up ⟨c, at_j', timed_out⟩

theorem one_behind_of_cycle {es : List Event} {t : Traffic} (run : Run empty es t) (i : Nat)
    (p : Path) : (t.callsOf i).countP (fun c => c.isLeftBehind && c.path.same p) ≤ 1 := by
  have orderly := (orderly_start .empty).run run
  have apart : Path.Apart ((t.callsOf i).map (·.path)) := by
    cases cycle : t.cycles[i]? with
    | none =>
      have nothing : t.callsOf i = [] := by
        refine List.filter_eq_nil_iff.mpr fun call member mine => ?_
        have begun := orderly.cycle_lt call member i (by simpa using mine)
        have beyond := List.getElem?_eq_none_iff.mp cycle
        omega
      rw [nothing]
      exact .nil
    | some c =>
      have upcoming := orderly.apart i c cycle
      rw [List.map_append] at upcoming
      have called := (List.pairwise_append.mp upcoming).1
      rw [calledFor, List.map_map] at called
      refine (List.map_congr_left fun call member => ?_) ▸ called
      exact (orderly.path_eq call (List.mem_filter.mp member).1).symm
  have few := apart.countP_le_one p
  rw [List.countP_map] at few
  refine Nat.le_trans (List.countP_mono_left fun call _ both => ?_) few
  exact (Bool.and_eq_true_iff.mp both).2

/-- What is left behind by cycles, however many of them there are at once. -/
structure Leaks (es : List Event) (t : Traffic) : Prop where
  one_each_cycle : ∀ i p, (t.callsOf i).countP (fun c => c.isLeftBehind && c.path.same p) ≤ 1
  /-- Of two calls on one place, each one that a cycle made slipped in beside the other. -/
  slipped_in : ∀ i j k a b, j ≠ k → t.race.calls[j]? = some a → t.race.calls[k]? = some b →
    a.isLeftBehind = true → b.isLeftBehind = true → a.path.same b.path = true →
    b.client.cycle = some i → SlippedIn es i b.client.label j
  at_most_one : RunAlone es t → ∀ p,
    t.race.calls.countP (fun c => c.isLeftBehind && c.path.same p) ≤ 1

theorem leaks_of_run {es : List Event} {t : Traffic} (run : Run empty es t) : Leaks es t where
  one_each_cycle := one_behind_of_cycle run
  slipped_in _ _ _ _ _ _ at_j at_k behind _ same cycle :=
    slipped_in_of_run run at_j (List.mem_of_getElem? at_k) behind same cycle
  at_most_one alone p := by
    rw [alone.countP_eq]
    split <;> decide

/-- Two cycles look at one mount before either gives up on it. Both call, and both calls hang. -/
theorem two_left_behind_on_one_place :
    ¬ ∀ (es : List Event) (t : Traffic), Run empty es t → (∀ l g, .called l g ∉ es) →
      ∀ p, t.race.calls.countP (fun c => c.isLeftBehind && c.path.same p) ≤ 1 := by
  intro claim
  have begun := ((Run.refl empty).step (.begin _ 0 everything [nas ⟨[47, 97]⟩])).step
    (.begin _ 0 everything [nas ⟨[47, 97]⟩])
  have looked := (begun.step (.consider (i := 0) rfl rfl rfl)).step (.consider (i := 1) rfl rfl rfl)
  have asked := (looked.step (.take (i := 0) rfl rfl rfl)).step (.take (i := 1) rfl rfl rfl)
  have first_gone := (asked.step (.expire (k := 0) rfl)).step
    (.look (show Race.look? _ 5 0 = some (_, true) from rfl) rfl)
  have both_gone := (first_gone.step (.expire (k := 1) rfl)).step
    (.look (show Race.look? _ 5 1 = some (_, true) from rfl) rfl)
  have one := claim _ _ both_gone (by simp) ⟨[47, 97]⟩
  exact absurd one (by decide)

/-- The second cycle begins while the call of the first one is awaited, and looks at the mount when
the first has given it up. -/
theorem leaks_of_two_cycles :
    ∃ (es : List Event) (t : Traffic), Run empty es t ∧ t.cycles.length = 2 ∧
      t.race.calls.countP (·.isLeftBehind) = 2 ∧ RunAlone es t ∧ Leaks es t := by
  have nobody {t : Traffic} {i : Nat} {l : Mount.Label}
      (idle : ∀ c ∈ t.cycles, c.pool.handing = none)
      (calls : ∀ call ∈ t.race.calls, call.path.same l.mountPoint = false) :
      t.Alone (.considered i l false) := by
    refine ⟨fun j c m _ at_j waits => ?_, fun call member same => ?_⟩
    · rw [idle c (List.mem_of_getElem? at_j)] at waits
      cases waits
    · rw [calls call member] at same
      cases same
  have begun := (RunAlone.start.step (.begin _ 0 everything [nas ⟨[47, 97]⟩]) trivial).step
    (.begin _ 0 everything [nas ⟨[47, 97, 47]⟩, nas ⟨[47, 98]⟩]) trivial
  have asked := (begun.step (.consider (i := 0) rfl rfl rfl)
    (nobody (by decide) (by decide))).step (.take (i := 0) rfl rfl rfl) trivial
  have given_up := (asked.step (.expire (k := 0) rfl) trivial).step
    (.look (show Race.look? _ 5 0 = some (_, true) from rfl) rfl) trivial
  have passed_over := given_up.step (.consider (i := 1) rfl rfl rfl) trivial
  have asked_again := (passed_over.step (.consider (i := 1) rfl rfl rfl)
    (nobody (by decide) (by decide))).step (.take (i := 1) rfl rfl rfl) trivial
  have both_gone := (asked_again.step (.expire (k := 1) rfl) trivial).step
    (.look (show Race.look? _ 9 1 = some (_, true) from rfl) rfl) trivial
  exact ⟨_, _, both_gone.run, rfl, rfl, both_gone, leaks_of_run both_gone.run⟩

end MountProbe.Traffic
