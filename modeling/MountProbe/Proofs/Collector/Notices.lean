import Mathlib.Data.List.Forall2
import MountProbe.Journal.Logger
import MountProbe.Proofs.Collector.Records
import MountProbe.Proofs.Collector.Reports

namespace MountProbe.Traffic

open Journal.Event (ofKind kind? mountPoint? ofKind_append ofKind_of_all ofKind_of_other
  ofKind_of_noted)
open Stuck (Outcome Race)

def notice? (p : Client × Outcome) : Option Journal.Event :=
  Journal.Event.ofOutcome? p.1.label p.1.guard.timeoutMs p.2

theorem kind?_of_ignored {c : Collector} {mounts : List Mount.Label} :
    ∀ e ∈ c.ignored mounts, e.kind? = some .mountIgnored := by
  intro e member
  obtain ⟨m, -, said⟩ := List.mem_filterMap.mp member
  split at said
  · cases said
  · cases said
    rfl

section

variable {t u v : Traffic} {e : Event} {bs es : List Event} {all said : List Journal.Event}

/-- What was handed in and what has recovered, as the log tells it. -/
structure Accounts (t : Traffic) (es : List Event) (u : Traffic) (all : List Journal.Event)
    (handed : List (Client × Outcome)) : Prop where
  reports : u.reports.Perm (handed ++ t.reports)
  stuck : ofKind .mountStuck all = ofKind .mountStuck (handed.filterMap notice?)
  failed : ofKind .statFailed all = ofKind .statFailed (handed.filterMap notice?)
  by_cycles : ∀ p ∈ handed, ∃ i l, p.1.cycle = some i ∧ .handed i l p.2 ∈ es
  recovered : u.recoveries.Perm ((ofKind .mountRecovered all).filterMap mountPoint? ++
    t.recoveries)

theorem accounts_refl (t : Traffic) : Accounts t [] t [] [] :=
  ⟨.refl _, rfl, rfl, by simp, .refl _⟩

theorem Accounts.trans {fs : List Event} {more : List Journal.Event}
    {handed later : List (Client × Outcome)} (first : Accounts t es u all handed)
    (last : Accounts u fs v more later) :
    Accounts t (es ++ fs) v (all ++ more) (handed ++ later) := by
  constructor
  · refine (last.reports.trans (first.reports.append_left later)).trans ?_
    rw [← List.append_assoc]
    exact List.perm_append_comm.append_right _
  · rw [ofKind_append, List.filterMap_append, ofKind_append, first.stuck, last.stuck]
  · rw [ofKind_append, List.filterMap_append, ofKind_append, first.failed, last.failed]
  · intro p member
    rcases List.mem_append.mp member with old | new
    · obtain ⟨i, l, mine, here⟩ := first.by_cycles p old
      exact ⟨i, l, mine, List.mem_append_left _ here⟩
    · obtain ⟨i, l, mine, here⟩ := last.by_cycles p new
      exact ⟨i, l, mine, List.mem_append_right _ here⟩
  · rw [ofKind_append, List.filterMap_append]
    refine (last.recovered.trans (first.recovered.append_left _)).trans ?_
    rw [← List.append_assoc]
    exact List.perm_append_comm.append_right _

theorem accounts_of_other (tidy : Tidy t) (turn : t.InTurn e) (step : Step t e u)
    (unhanded : ∀ i l o, e ≠ .handed i l o) (recovered : u.recoveries.Perm t.recoveries)
    (none_stuck : ofKind .mountStuck said = []) (none_failed : ofKind .statFailed said = [])
    (none_free : ofKind .mountRecovered said = []) : Accounts t [e] u said [] := by
  refine ⟨reports_of_other tidy turn step unhanded, none_stuck, none_failed, by simp, ?_⟩
  rw [none_free]
  exact recovered

theorem accounts_of_step (turns : RunInTurn bs t) (turn : t.InTurn e) (step : Step t e u)
    (tells : Says t e said) : ∃ handed, Accounts t [e] u said handed := by
  have tidy := tidy_of_turns turns
  have quiet : (∀ k entry, e ≠ .did k (.reported entry)) → u.recoveries.Perm t.recoveries :=
    recoveries_of_other turn step
  cases tells with
  | began now c mounts =>
    have kinds : ∀ e ∈ c.ignored mounts, e.kind? = some .mountIgnored := kind?_of_ignored
    exact ⟨[], accounts_of_other tidy turn step (by simp) (quiet (by simp))
      (ofKind_of_other kinds (by decide)) (ofKind_of_other kinds (by decide))
      (ofKind_of_other kinds (by decide))⟩
  | skipped i l =>
    exact ⟨[], accounts_of_other tidy turn step (by simp) (quiet (by simp)) rfl rfl rfl⟩
  | completed i records size ms =>
    exact ⟨[], accounts_of_other tidy turn step (by simp) (quiet (by simp)) rfl rfl rfl⟩
  | noted other noted =>
    exact ⟨[], accounts_of_other tidy turn step (by simp) (quiet (by simp))
      (ofKind_of_noted rfl other noted) (ofKind_of_noted rfl other noted)
      (ofKind_of_noted rfl other noted)⟩
  | @handed k i call o here mine told =>
    have member := List.mem_of_getElem? here
    have reports := reports_of_handed tidy turns.run member mine told step
    have said : [(call.client, o)].filterMap notice? = (notice? (call.client, o)).toList := by
      cases found : notice? (call.client, o) <;> simp [found]
    refine ⟨[(call.client, o)], reports, by rw [said]; rfl, by rw [said]; rfl, ?_, ?_⟩
    · intro p member
      rw [List.mem_singleton.mp member]
      exact ⟨i, _, mine, List.mem_singleton.mpr rfl⟩
    · have none_free : ofKind .mountRecovered (Journal.Event.ofOutcome? call.client.label
          call.client.guard.timeoutMs o).toList = [] := by
        rcases o with (f | counts) | _ <;> rfl
      rw [none_free]
      exact quiet (by simp)
  | @recovered k call entry ms here found =>
    have free := (recoveries_of_reported tidy turns.run step here).2
    refine ⟨[], reports_of_other tidy turn step (by simp), rfl, rfl, by simp, ?_⟩
    exact free
  | silent silent =>
    refine ⟨[], accounts_of_other tidy turn step ?_ ?_ rfl rfl rfl⟩
    · rintro i l o rfl
      cases silent
    · cases e with
      | did k d =>
        cases d with
        | reported entry =>
          obtain ⟨c, _, here, _⟩ := Race.step_did (step_did step)
          have free := (recoveries_of_reported tidy turns.run step here).2
          rw [Option.isNone_iff_eq_none.mp silent] at free
          exact free
        | _ => exact quiet (by simp)
      | _ => exact quiet (by simp)

theorem Saying.accounts (turns : RunInTurn bs t) (saying : Saying t es u all) :
    ∃ handed, Accounts t es u all handed := by
  induction saying with
  | refl => exact ⟨[], accounts_refl t⟩
  | step before step turn tells ih =>
    obtain ⟨handed, first⟩ := ih
    obtain ⟨later, last⟩ := accounts_of_step (before.inTurn turns) turn step tells
    exact ⟨handed ++ later, first.trans last⟩

def Event.skipped? : Event → Option Journal.Event
  | .considered _ l true => some (.skipped l)
  | _ => none

def Event.closing? : Event → Option Nat
  | .closed _ records => some records.length
  | _ => none

def IsClosing (e : Journal.Event) (n : Nat) : Prop :=
  ∃ size ms, e = .scrapeCompleted n size ms

theorem Says.skipped_eq (tells : Says t e said) :
    ofKind .mountSkipped said = e.skipped?.toList := by
  cases tells with
  | began now c mounts => exact ofKind_of_other kind?_of_ignored (by decide)
  | handed _ _ _ => rename_i o _ _ _; rcases o with (f | counts) | _ <;> rfl
  | noted other noted => exact ofKind_of_noted rfl other noted
  | silent silent =>
    cases e with
    | considered i l stuck =>
      cases stuck with
      | true => cases silent
      | false => rfl
    | _ => rfl
  | _ => rfl

theorem Says.ignored_eq (tells : Says t e said) (quiet : e.isQuiet = true) :
    ofKind .mountIgnored said = [] := by
  cases tells with
  | began now c mounts => cases quiet
  | handed _ _ _ => rename_i o _ _ _; rcases o with (f | counts) | _ <;> rfl
  | noted other noted => exact ofKind_of_noted rfl other noted
  | _ => rfl

theorem Says.completed_eq (tells : Says t e said) :
    List.Forall₂ IsClosing (ofKind .scrapeComplete said) e.closing?.toList := by
  cases tells with
  | began now c mounts =>
    rw [ofKind_of_other kind?_of_ignored (by decide)]
    exact .nil
  | handed _ _ _ => rename_i o _ _ _; rcases o with (f | counts) | _ <;> exact .nil
  | completed i records size ms => exact .cons ⟨size, ms, rfl⟩ .nil
  | noted other noted =>
    rw [ofKind_of_noted rfl other noted]
    exact .nil
  | silent silent =>
    cases e with
    | closed i records => cases silent
    | _ => exact .nil
  | _ => exact .nil

theorem Saying.skipped_eq (saying : Saying t es u all) :
    ofKind .mountSkipped all = es.filterMap Event.skipped? := by
  induction saying with
  | refl => rfl
  | @step v w es e all said _ _ _ tells ih =>
    rw [ofKind_append, List.filterMap_append, ih, tells.skipped_eq]
    cases found : e.skipped? <;> simp [found]

theorem Saying.ignored_eq (saying : Saying t es u all) (quiet : ∀ e ∈ es, e.isQuiet = true) :
    ofKind .mountIgnored all = [] := by
  induction saying with
  | refl => rfl
  | @step v w es e all said _ _ _ tells ih =>
    rw [ofKind_append, ih fun e member => quiet e (List.mem_append_left _ member),
      tells.ignored_eq (quiet e (List.mem_append_right _ (List.mem_singleton.mpr rfl)))]
    rfl

theorem Saying.completed_eq (saying : Saying t es u all) :
    List.Forall₂ IsClosing (ofKind .scrapeComplete all) (es.filterMap Event.closing?) := by
  induction saying with
  | refl => exact .nil
  | @step v w es e all said _ _ _ tells ih =>
    rw [ofKind_append, List.filterMap_append]
    refine List.rel_append ih ?_
    have last := tells.completed_eq
    cases found : e.closing? <;> simpa [found] using last

end

end MountProbe.Traffic
