import MountProbe.Proofs.Stuck.Telling
import MountProbe.Proofs.Stuck.Quarantine
import Mathlib.Data.List.Basic

/-! Who puts a mount point into the registry and who takes it out. An entry has no owner: whether a
mount point is stuck is what the last call on it said, by a mark or by a report. So a call that is
left behind has its mount point in the registry only until another call on it reports. -/
namespace MountProbe.Stuck

open Race (Deed Event Run Step)

/-- Whether the deed puts a mount point into the registry or takes it out. -/
def Race.Deed.mark? : Deed → Option Bool
  | looked _ true => some true
  | reported _ => some false
  | _ => none

theorem Registry.isStuck_after {g : Registry} {p q : Path} {d : Deed} :
    (g.after p d).isStuck q = if p.same q then d.mark?.getD (g.isStuck q) else g.isStuck q := by
  cases same : p.same q with
  | true =>
    unfold after
    split <;> simp_all [isStuck_clear, isStuck_mark, Deed.mark?]
  | false =>
    unfold after
    split <;> simp_all [isStuck_clear, isStuck_mark]

section

variable {κ : Type}

/-- What calls on a mount point said of it, in order. -/
def marksOn (r : Race κ) (p : Path) (es : List (Event κ)) : List Bool :=
  es.filterMap fun
    | .did i d => if (r.calls[i]?).any (·.path.same p) then d.mark? else none
    | .started _ _ => none

theorem call_of_event {r s : Race κ} {es : List (Event κ)} {i : Nat} {d : Deed}
    (run : Run r es s) (member : .did i d ∈ es) : ∃ c, s.calls[i]? = some c := by
  induction run with
  | refl => cases member
  | step _ step ih =>
    rcases List.mem_append.mp member with before | now
    · obtain ⟨c, call⟩ := ih before
      obtain ⟨c', later, _⟩ := Race.call_after step call
      exact ⟨c', later⟩
    · cases List.mem_singleton.mp now
      obtain ⟨c, c', call, _, calls, _⟩ := Race.step_did step
      exact ⟨c', by rw [calls]; exact Race.getElem?_set_self call c'⟩

theorem report_of_marksOn {r : Race κ} {p : Path} {es : List (Event κ)}
    (member : false ∈ marksOn r p es) :
    ∃ i entry c, .did i (.reported entry) ∈ es ∧ r.calls[i]? = some c ∧ c.path.same p = true := by
  obtain ⟨e, here, said⟩ := List.mem_filterMap.mp member
  cases e with
  | started q client => cases said
  | did i d =>
    obtain ⟨on_it, said⟩ := Option.ite_none_right_eq_some.mp said
    obtain ⟨c, call, same⟩ := (Option.any_eq_true ..).mp on_it
    cases d with
    | reported entry => exact ⟨i, entry, c, here, call, same⟩
    | looked now gave_up => cases gave_up <;> cases said
    | back _ | expired | received _ => cases said

theorem marksOn_step {r s t : Race κ} {es : List (Event κ)} {e : Event κ} (p : Path)
    (run : Run r es s) (step : Step s e t) : marksOn t p es = marksOn s p es := by
  refine List.filterMap_congr fun f member => ?_
  cases f with
  | started q client => rfl
  | did i d =>
    obtain ⟨c, call⟩ := call_of_event run member
    obtain ⟨c', later, same⟩ := Race.call_after step call
    simp [call, later, same.path_eq]

theorem isStuck_step {r s : Race κ} {e : Event κ} (p : Path) (step : Step r e s) :
    s.registry.isStuck p = (marksOn s p [e]).getLast?.getD (r.registry.isStuck p) := by
  cases e with
  | started q client =>
    rw [Race.step_started step]
    rfl
  | did i d =>
    obtain ⟨c, c', call, does, calls, registry⟩ := Race.step_did step
    have here : s.calls[i]? = some c' := by
      rw [calls]
      exact Race.getElem?_set_self call c'
    rw [registry, Registry.isStuck_after]
    cases same : c.path.same p <;> cases said : d.mark? <;>
      simp [marksOn, here, does.path_eq, same, said]

theorem isStuck_of_run {r s : Race κ} {es : List (Event κ)} (p : Path) (run : Run r es s) :
    s.registry.isStuck p = (marksOn s p es).getLast?.getD (r.registry.isStuck p) := by
  induction run with
  | refl => rfl
  | @step s t es e before step ih =>
    have split : marksOn t p (es ++ [e]) = marksOn s p es ++ marksOn t p [e] := by
      rw [← marksOn_step p before step]
      exact List.filterMap_append
    rw [isStuck_step p step, split, List.getLast?_append, ih]
    cases (marksOn t p [e]).getLast? <;> simp

theorem run_split {r t : Race κ} {es fs : List (Event κ)} {e : Event κ}
    (run : Run r (es ++ e :: fs) t) : ∃ s u, Run r es s ∧ Step s e u ∧ Run u fs t := by
  generalize whole : es ++ e :: fs = all at run
  induction run generalizing fs with
  | refl => simp at whole
  | @step s t all f before step ih =>
    rcases List.eq_nil_or_concat fs with rfl | ⟨gs, g, rfl⟩
    · obtain ⟨rfl, same⟩ := List.append_inj' whole rfl
      cases same
      exact ⟨s, t, before, step, .refl t⟩
    · rw [List.concat_eq_append] at whole ⊢
      rw [← List.cons_append, ← List.append_assoc] at whole
      obtain ⟨earlier, last⟩ := List.append_inj' whole rfl
      cases last
      obtain ⟨u, v, first, middle, rest⟩ := ih earlier
      exact ⟨u, v, first, middle, rest.step step⟩

theorem unreported_of_run {g : Registry} {r : Race κ} {es : List (Event κ)} {i : Nat} {c : Call κ}
    (run : Run ⟨g, []⟩ es r) (call : r.calls[i]? = some c) (under_way : c.probe ≠ .ended) :
    ∀ d ∈ deedsOf i es, d.isReport = false :=
  ((account_of_run run call).unreported under_way).2

/-- What becomes of the marks that calls make, after some events from an empty registry. -/
structure Quarantine (es : List (Event κ)) (r : Race κ) : Prop where
  last_word : ∀ p, r.registry.isStuck p = (marksOn r p es).getLast?.getD false
  /-- A call that is left behind has marked its place. It is still marked, unless another call on
  the place has reported since then and none has marked it again. -/
  held : ∀ i c, r.calls[i]? = some c → c.isLeftBehind = true →
    ∃ before now after, es = before ++ .did i (.looked now true) :: after ∧
      (∀ d ∈ deedsOf i after, d.isReport = false) ∧
      (r.registry.isStuck c.path = true ↔ (marksOn r c.path after).getLast? ≠ some false)
  /-- Nothing but the report of a call on it makes a place free again. -/
  lifted : ∀ e s p, Step r e s → r.registry.isStuck p = true → s.registry.isStuck p = false →
    ∃ i c entry, e = .did i (.reported entry) ∧ r.calls[i]? = some c ∧ c.path.same p = true

theorem held_of_run {g : Registry} {es : List (Event κ)} {r : Race κ} {i : Nat} {c : Call κ}
    (run : Run ⟨g, []⟩ es r) (call : r.calls[i]? = some c) (behind : c.isLeftBehind = true) :
    ∃ before now after, es = before ++ .did i (.looked now true) :: after ∧
      (∀ d ∈ deedsOf i after, d.isReport = false) ∧
      (r.registry.isStuck c.path = true ↔ (marksOn r c.path after).getLast? ≠ some false) := by
  obtain ⟨told, under_way⟩ := Call.isLeftBehind_iff.mp behind
  obtain ⟨before, now, after, _, _, _, rfl, _⟩ := marked_of_run run call told
  refine ⟨before, now, after, rfl, fun d member => ?_, ?_⟩
  · refine unreported_of_run run call under_way d ?_
    rw [List.append_cons, deedsOf_append]
    exact List.mem_append_right _ member
  · obtain ⟨s, u, _, look, rest⟩ := run_split run
    obtain ⟨b, b', was, does, calls, registry⟩ := Race.step_did look
    have marked : u.calls[i]? = some b' := by
      rw [calls]
      exact Race.getElem?_set_self was b'
    obtain ⟨_, later, same⟩ := Race.call_after_run rest marked
    cases Option.some.inj (later.symm.trans call)
    have stuck : u.registry.isStuck c.path = true := by
      rw [registry, Registry.isStuck_after, same.path_eq, does.path_eq]
      simp [Path.same_refl, Deed.mark?]
    rw [isStuck_of_run c.path rest, stuck]
    cases (marksOn r c.path after).getLast? <;> simp

theorem lifted_by_report {r s : Race κ} {e : Event κ} {p : Path} (step : Step r e s)
    (stuck : r.registry.isStuck p = true) (free : s.registry.isStuck p = false) :
    ∃ i c entry, e = .did i (.reported entry) ∧ r.calls[i]? = some c ∧ c.path.same p = true := by
  cases e with
  | started q client =>
    rw [Race.step_started step] at free
    exact absurd (stuck.symm.trans free) (by decide)
  | did i d =>
    obtain ⟨c, _, call, _, _, registry⟩ := Race.step_did step
    rw [registry, Registry.isStuck_after, stuck] at free
    split at free
    · rename_i same
      cases d with
      | reported entry => exact ⟨i, c, entry, rfl, call, same⟩
      | looked now gave_up => cases gave_up <;> cases free
      | back _ | expired | received _ => cases free
    · cases free

theorem quarantine_of_run {es : List (Event κ)} {r : Race κ} (run : Run ⟨.empty, []⟩ es r) :
    Quarantine es r where
  last_word p := isStuck_of_run p run
  held _ _ call behind := held_of_run run call behind
  lifted _ _ _ step stuck free := lifted_by_report step stuck free

end

/-- A place that a call is left behind on is free again when another call on it has come back: the
one that is left behind still runs. -/
theorem freed_by_another_call :
    ¬ ∀ (es : List (Event Unit)) (r : Race Unit), Run ⟨.empty, []⟩ es r → ∀ c ∈ r.calls,
      c.outcome? = some .timedOut → c.isRunning = true → r.registry.isStuck c.path = true := by
  intro claim
  have begun := ((Run.refl (⟨.empty, []⟩ : Race Unit)).step (.start _ ⟨[47, 97]⟩ ())).step
    (.start _ ⟨[47, 97]⟩ ())
  have given_up := (begun.step (.expire (i := 0) rfl)).step
    (.look (show Race.look? _ 5 0 = some (_, true) from rfl))
  have other_back := (given_up.step (.finish
    (show Race.finish? _ 1 (.answered (.ok ⟨512, 8, 4, 4, 9, 3⟩)) = some _ from rfl))).step
    (.report (i := 1) rfl)
  have held := claim _ _ other_back _ (List.mem_cons_self ..) rfl rfl
  cases held

/-- A call is given up on a place, and another call on it comes back: the place is free, and the
first call still runs. A third call is given up there, and it is stuck again. -/
theorem quarantine_of_three_calls :
    ∃ (es fs : List (Event Unit)) (r s : Race Unit), Run ⟨.empty, []⟩ es r ∧
      r.registry = .empty ∧ (∃ c ∈ r.calls, c.isLeftBehind = true ∧ c.isRunning = true) ∧
      Quarantine es r ∧ Run ⟨.empty, []⟩ fs s ∧ s.registry.isStuck ⟨[47, 97]⟩ = true ∧
      Quarantine fs s := by
  have begun := ((Run.refl (⟨.empty, []⟩ : Race Unit)).step (.start _ ⟨[47, 97]⟩ ())).step
    (.start _ ⟨[47, 97, 47]⟩ ())
  have given_up := (begun.step (.expire (i := 0) rfl)).step
    (.look (show Race.look? _ 5 0 = some (_, true) from rfl))
  have freed := (given_up.step (.finish
    (show Race.finish? _ 1 (.answered (.ok ⟨512, 8, 4, 4, 9, 3⟩)) = some _ from rfl))).step
    (.report (i := 1) rfl)
  have again := ((freed.step (.start _ ⟨[47, 97]⟩ ())).step (.expire (i := 2) rfl)).step
    (.look (show Race.look? _ 9 2 = some (_, true) from rfl))
  exact ⟨_, _, _, _, freed, rfl, ⟨_, List.mem_cons_self .., rfl, rfl⟩, quarantine_of_run freed,
    again, rfl, quarantine_of_run again⟩

end MountProbe.Stuck
