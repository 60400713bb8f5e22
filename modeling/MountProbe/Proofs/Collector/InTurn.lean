import MountProbe.Proofs.Collector.Orderly
import MountProbe.Proofs.Stuck.Telling

/-! Cycles one after another. A cycle that begins when the earlier ones are over finds nothing under
way but what they left behind, and that is what the registry holds. So it makes no call on a place
where one is under way, whenever the calls that hang come back. -/
namespace MountProbe.Traffic

open Stuck (OneEach Outcome Race)

def isIdle (t : Traffic) : Bool :=
  t.cycles.all (·.records.isSome)

/-- What may happen next when cycles take turns and nobody else makes calls. -/
def InTurn (t : Traffic) : Event → Prop
  | .began _ _ _ => t.isIdle = true
  | .called _ _ => False
  | _ => True

/-- What can come of cycles that take turns, from an empty registry on. -/
inductive RunInTurn : List Event → Traffic → Prop where
  | start : RunInTurn [] empty
  | step {t u : Traffic} {es : List Event} {e : Event} :
    RunInTurn es t → Step t e u → t.InTurn e → RunInTurn (es ++ [e]) u

theorem RunInTurn.run {t : Traffic} {es : List Event} (h : RunInTurn es t) : Run empty es t := by
  induction h with
  | start => exact .refl empty
  | step _ step _ ih => exact ih.step step

theorem RunInTurn.append {t u : Traffic} {bs es : List Event} (turns : RunInTurn bs t)
    (run : Run t es u) (quiet : ∀ e ∈ es, e.isQuiet = true) : RunInTurn (bs ++ es) u := by
  induction run with
  | refl => simpa using turns
  | @step s v es e _ step ih =>
    rw [← List.append_assoc]
    refine (ih fun e' member => quiet e' (List.mem_append_left _ member)).step step ?_
    have silent := quiet e (List.mem_append_right _ (List.mem_singleton.mpr rfl))
    cases e with
    | began now c mounts => cases silent
    | called l g => cases silent
    | _ => trivial

/-- How things stand while cycles take turns: all calls are made by cycles, only the last cycle is
at work, and on what it is about to ask for nothing is under way. -/
structure Tidy (t : Traffic) : Prop where
  orderly : Orderly t
  race : OneEach t.race
  owned : ∀ call ∈ t.race.calls, ∃ i, call.client.cycle = some i
  last : ∀ (i : Nat) (c : Cycle), t.cycles[i]? = some c → c.records = none →
    i + 1 = t.cycles.length
  free : ∀ (i : Nat) (c : Cycle) (l : Mount.Label), t.cycles[i]? = some c →
    c.pool.handing = some l →
    ∀ call ∈ t.race.calls, call.path.same l.mountPoint = true → call.isOver = true

theorem tidy_empty : Tidy empty := by
  constructor
  · exact orderly_start .empty
  · exact Stuck.oneEach_empty
  all_goals simp [empty]

theorem over_of_completed {t : Traffic} {es : List Event} (run : Run empty es t)
    {call : Stuck.Call Client} (member : call ∈ t.race.calls) {answer : Stat.Answer}
    (told : call.outcome? = some (.completed answer)) : call.isOver = true := by
  obtain ⟨deeds, race⟩ := run.race
  obtain ⟨k, here⟩ := List.mem_iff_getElem?.mp member
  have account := Stuck.account_of_run race here
  exact Stuck.Call.isOver_iff.mpr (account.completed answer (Stuck.Call.outcome?_eq_some.mp told))

section

variable {t u : Traffic} {es : List Event} {e : Event}

theorem Tidy.over_or_behind (h : Tidy t) (run : Run empty es t) {call : Stuck.Call Client} {i : Nat}
    {c : Cycle} (member : call ∈ t.race.calls) (mine : call.client.cycle = some i)
    (cycle : t.cycles[i]? = some c) (closed : c.records.isSome = true) :
    call.isOver = true ∨ call.isLeftBehind = true := by
  have busy := (Pool.isDone_iff.mp (h.orderly.done i c cycle closed)).2.2.1
  cases told : call.outcome? with
  | none =>
    have waits := h.orderly.awaited call member told i c mine cycle
    rw [busy] at waits
    cases waits
  | some o =>
    cases o with
    | completed answer => exact .inl (over_of_completed run member told)
    | timedOut =>
      cases ended : call.isOver with
      | true => exact .inl rfl
      | false =>
        have late := Stuck.Call.hasTimedOut_iff.mpr (Stuck.Call.outcome?_eq_some.mp told)
        exact .inr (by simp [Stuck.Call.isLeftBehind, late, ended])

theorem Tidy.open_of_unfinished (h : Tidy t) {i : Nat} {c : Cycle} (cycle : t.cycles[i]? = some c)
    (unfinished : c.pool.isDone = false) : c.records = none := by
  cases hr : c.records with
  | none => rfl
  | some records =>
    rw [h.orderly.done i c cycle (by simp [hr])] at unfinished
    contradiction

theorem Tidy.same_of_open (h : Tidy t) {i j : Nat} {b c : Cycle} (at_i : t.cycles[i]? = some b)
    (at_j : t.cycles[j]? = some c) (open_b : b.records = none) (open_c : c.records = none) :
    i = j := by
  have i_last := h.last i b at_i open_b
  have j_last := h.last j c at_j open_c
  omega

theorem Tidy.free_of_admitted (h : Tidy t) (run : Run empty es t) {i : Nat} {c : Cycle}
    {l : Mount.Label} (cycle : t.cycles[i]? = some c) (next : c.pool.next? = some l)
    (unmarked : t.race.registry.isStuck l.mountPoint = false) :
    ∀ call ∈ t.race.calls, call.path.same l.mountPoint = true → call.isOver = true := by
  intro call member same
  obtain ⟨idle, pending⟩ : c.pool.handing = none ∧ l ∈ c.pool.pending := by
    unfold Pool.next? at next
    split at next
    · contradiction
    · rename_i idle
      exact ⟨idle, List.mem_of_head? next⟩
  obtain ⟨j, mine⟩ := h.owned call member
  obtain ⟨b, at_j⟩ : ∃ b, t.cycles[j]? = some b :=
    ⟨_, List.getElem?_eq_getElem (h.orderly.cycle_lt call member j mine)⟩
  cases closed : b.records with
  | some records =>
    exact over_of_unmarked h.race unmarked member same
      (h.over_or_behind run member mine at_j (by simp [closed]))
  | none =>
    have unfinished : c.pool.isDone = false := by
      rw [Bool.eq_false_iff]
      intro done
      rw [(Pool.isDone_iff.mp done).1] at pending
      cases pending
    have this_cycle := h.same_of_open at_j cycle closed (h.open_of_unfinished cycle unfinished)
    subst this_cycle
    rw [h.orderly.path_eq call member] at same
    exact absurd same (h.orderly.uncalled cycle (List.mem_append_right _ pending)
      (List.mem_filter.mpr ⟨member, by simp [mine]⟩))

theorem InTurn.not_called (turn : t.InTurn e) (l : Mount.Label) (g : Guard) : e ≠ .called l g := by
  rintro rfl
  exact turn

theorem step_owned (h : Tidy t) (turn : t.InTurn e) (step : Step t e u) :
    ∀ call ∈ u.race.calls, ∃ i, call.client.cycle = some i := by
  intro call member
  rcases step_calls step member with ⟨was, before, later⟩ | ⟨i, l, c, _, _, rfl⟩ | ⟨l, g, rfl, _⟩
  · rw [later.client_eq]
    exact h.owned was before
  · exact ⟨i, rfl⟩
  · exact turn.elim

theorem step_last (h : Tidy t) (turn : t.InTurn e) (step : Step t e u) {i : Nat} {c' : Cycle}
    (cycle : u.cycles[i]? = some c') (at_work : c'.records = none) : i + 1 = u.cycles.length := by
  rcases step_cycle step cycle with ⟨c, pool, pe, was, here, _, rfl⟩ |
    ⟨c, records, _, _, _, _, rfl⟩ | ⟨was, _⟩ | ⟨new, now, c, mounts, rfl, rfl⟩
  · obtain ⟨b, pool', _, _, cycles⟩ := step_pool step here
    rw [cycles, List.length_set]
    exact h.last i c was at_work
  · cases at_work
  · have before := h.last i c' was at_work
    rw [before]
    refine (step_cycles_length_eq step ?_).symm
    rintro now c mounts rfl
    have closed := List.all_eq_true.mp turn c' (List.mem_of_getElem? was)
    rw [at_work] at closed
    cases closed
  · cases step
    simp [new]

/-- What is about to be asked for has nothing under way: it was so when the dispatcher looked, and
no other cycle is at work. -/
theorem step_free (h : Tidy t) (run : Run empty es t) (turn : t.InTurn e) (step : Step t e u)
    {i : Nat} {c' : Cycle} {l : Mount.Label} (cycle : u.cycles[i]? = some c')
    (waits : c'.pool.handing = some l) :
    ∀ call ∈ u.race.calls, call.path.same l.mountPoint = true → call.isOver = true := by
  rcases step_handing step cycle waits with ⟨c, was, earlier, untaken⟩ | ⟨rfl, unmarked⟩
  · refine over_of_step step turn.not_called (h.free i c l was earlier) ?_
    rintro j m rfl
    obtain ⟨b, pool, at_j, worked, _⟩ := step_pool step rfl
    have unfinished : c.pool.isDone = false := by simp [Pool.isDone, earlier]
    have same := h.same_of_open at_j was (h.open_of_unfinished at_j worked.not_isDone)
      (h.open_of_unfinished was unfinished)
    exact absurd (by rw [same]) (untaken m)
  · cases does_of_step step with
    | dispatch at_i next free _ =>
      exact over_of_step step turn.not_called (h.free_of_admitted run at_i next free) (by simp)

theorem Tidy.step (h : Tidy t) (run : Run empty es t) (turn : t.InTurn e) (step : Step t e u) :
    Tidy u where
  orderly := h.orderly.step step
  race := oneEach_of_step h.race step turn.not_called h.free
  owned := step_owned h turn step
  last _ _ cycle at_work := step_last h turn step cycle at_work
  free _ _ _ cycle waits := step_free h run turn step cycle waits

theorem tidy_of_turns (turns : RunInTurn es t) : Tidy t := by
  induction turns with
  | start => exact tidy_empty
  | step before step turn ih => exact ih.step before.run turn step

end

/-- What the registry and the calls under way have to do with each other when cycles take turns. -/
structure Accounted (t : Traffic) : Prop where
  /-- The registry holds the places where a call was left behind, and on each there is one. -/
  exact_places : ∀ p, t.race.calls.countP (fun c => c.isLeftBehind && c.path.same p) =
    if t.race.registry.isStuck p then 1 else 0
  as_many : t.race.calls.countP (·.isLeftBehind) = t.race.registry.size
  /-- When a cycle may begin, nothing else is under way. -/
  between : t.isIdle = true → ∀ call ∈ t.race.calls, call.isOver = false → call.isLeftBehind = true
  /-- No mount is dispatched, and no call is made, where a call is under way. -/
  never_twice : ∀ i l u, Step t (.considered i l false) u ∨ Step t (.took i l) u →
    ∀ call ∈ t.race.calls, call.path.same l.mountPoint = true → call.isOver = true

theorem Tidy.accounted {t : Traffic} {es : List Event} (tidy : Tidy t) (run : Run empty es t) :
    Accounted t := by
  obtain ⟨deeds, race⟩ := run.race
  have explained := Stuck.explained_of_run race
  constructor
  · exact tidy.race.countP_eq explained
  · exact tidy.race.countP_eq_size explained
  · intro idle call member under_way
    obtain ⟨i, mine⟩ := tidy.owned call member
    have cycle := List.getElem?_eq_getElem (tidy.orderly.cycle_lt call member i mine)
    have closed := List.all_eq_true.mp idle _ (List.mem_of_getElem? cycle)
    rcases tidy.over_or_behind run member mine cycle closed with ended | behind
    · rw [ended] at under_way
      contradiction
    · exact behind
  · rintro i l u (considered | took)
    · cases does_of_step considered with
      | dispatch cycle next free _ => exact tidy.free_of_admitted run cycle next free
    · cases does_of_step took with
      | take cycle waits _ => exact tidy.free i _ l cycle waits

/-- When cycles take turns, whatever their collectors and tables and whenever hung calls come back,
there is one call left behind on each place in the registry and none elsewhere, and no cycle makes a
second one there. -/
theorem one_call_behind_per_stuck_place {es : List Event} {t : Traffic}
    (turns : RunInTurn es t) : Accounted t :=
  (tidy_of_turns turns).accounted turns.run

def everything : Collector :=
  ⟨⟨⟨none, none⟩, ⟨none, none⟩⟩, 1, ⟨100, false⟩⟩

def nas (p : Path) : Mount.Label :=
  { device := "nas", mountPoint := p, fsType := "nfs" }

/-- The first cycle gives its only call up. The call comes back when the second one, on another
spelling of the place, has begun. -/
theorem one_call_behind_per_stuck_place_of_two :
    ∃ (es fs : List Event) (t u : Traffic), RunInTurn es t ∧ RunInTurn fs u ∧ t.cycles.length = 2 ∧
      t.race.calls.length = 1 ∧ t.race.registry.size = 1 ∧ Accounted t ∧
      u.race.registry.size = 0 ∧ Accounted u := by
  have begun := RunInTurn.start.step (.begin empty 0 everything [nas ⟨[47, 97]⟩]) rfl
  have asked := ((Run.refl (empty.begin 0 everything [nas ⟨[47, 97]⟩])).step
    (.consider (i := 0) rfl rfl rfl)).step (.take (i := 0) rfl rfl rfl)
  have given_up := ((asked.step (.expire (k := 0) rfl)).step
    (.look (show Race.look? _ 5 0 = some (_, true) from rfl) rfl)).step
    (.handIn (k := 0) rfl rfl rfl rfl)
  have closed := (given_up.step (.collect (i := 0) rfl rfl rfl)).step
    (.close (show close? _ 5 0 = some _ from rfl) rfl)
  have again := (begun.append closed (by simp [Event.isQuiet])).step
    (.begin _ 9 everything [nas ⟨[47, 97, 47]⟩]) rfl
  have back := again.step (.finish (show finish? _ 0 (.broken "late") = some _ from rfl)) trivial
  have ended := back.step (.report (k := 0) rfl (show report? _ 12 0 = some _ from rfl)) trivial
  exact ⟨_, _, _, _, again, ended, rfl, rfl, rfl, one_call_behind_per_stuck_place again, rfl,
    one_call_behind_per_stuck_place ended⟩

end MountProbe.Traffic
