import MountProbe.Proofs.Collector.Drive
import MountProbe.Proofs.Collector.InTurn
import MountProbe.Proofs.Collector.Records

namespace MountProbe.Timetable

open Traffic (Moves RunInTurn)

variable {t u : Timetable}

theorem isIdle_iff {t : Traffic} :
    t.isIdle = true ↔ ∀ i < t.cycles.length, (t.records? i).isSome = true := by
  rw [Traffic.isIdle, List.all_eq_true]
  constructor
  · intro closed i below
    rw [Traffic.records?, List.getElem?_eq_getElem below]
    exact closed _ (List.getElem_mem below)
  · intro said c member
    obtain ⟨i, below, rfl⟩ := List.getElem_of_mem member
    have here := said i below
    rw [Traffic.records?, List.getElem?_eq_getElem below] at here
    exact here

/-- No scrape is at work, and those that were made took turns. -/
structure Between (t : Timetable) : Prop where
  turns : ∃ es, RunInTurn es t.traffic
  idle : t.traffic.isIdle = true
  steady : Steady t

theorem between_empty : Between .empty where
  turns := ⟨[], .start⟩
  idle := rfl
  steady := ⟨by simp [empty, Traffic.empty], rfl⟩

theorem Between.of_moves (h : Between t) (moves : Moves t.traffic u.traffic) (steady : Steady u) :
    Between u := by
  obtain ⟨bs, turns⟩ := h.turns
  refine ⟨?_, ?_, steady⟩
  · obtain ⟨es, run, quiet⟩ := moves
    exact ⟨bs ++ es, turns.append run quiet⟩
  · rw [isIdle_iff, moves.cycles_length]
    intro i below
    obtain ⟨records, said⟩ := Option.isSome_iff_exists.mp (isIdle_iff.mp h.idle i below)
    rw [moves.records said]
    rfl

theorem Between.orderly (h : Between t) : Traffic.Orderly t.traffic := by
  obtain ⟨es, turns⟩ := h.turns
  exact (Traffic.tidy_of_turns turns).orderly

theorem Between.accounted (h : Between t) : Traffic.Accounted t.traffic := by
  obtain ⟨es, turns⟩ := h.turns
  exact (Traffic.tidy_of_turns turns).accounted turns.run

theorem Between.log (h : Between t) (g : Guard) (e : Journal.Event) :
    Between { t with traffic := t.traffic.log g e } := by
  refine h.of_moves ((Moves.refl t.traffic).step (.note t.traffic g e) rfl) ⟨?_, ?_⟩
  · simpa using h.steady.at_rest
  · simpa using h.steady.booked

theorem Between.letGo (h : Between t) (chosen : Path → Bool) : Between (t.letGo chosen) where
  turns := h.turns
  idle := h.idle
  steady := ⟨h.steady.at_rest, by simp [Timetable.letGo, h.steady.booked]⟩

theorem passUntil_moves (stop : Timetable → Bool) (n : Nat) (steady : Steady t) :
    Moves t.traffic (t.passUntil stop n).traffic ∧ Steady (t.passUntil stop n) := by
  induction n generalizing t with
  | zero => exact ⟨.refl t.traffic, steady⟩
  | succ n ih =>
    rw [passUntil]
    split
    · exact ⟨.refl t.traffic, steady⟩
    · split
      · rename_i u passes
        obtain ⟨_, _, _, _, passed⟩ := pass?_passed steady passes
        obtain ⟨moves, steady'⟩ := ih (passed.steady steady)
        exact ⟨passed.moves.trans moves, steady'⟩
      · exact ⟨.refl t.traffic, steady⟩

theorem Between.sleepUntil (h : Between t) (time : Nat) : Between (t.sleepUntil time) := by
  have passed := fun stop => passUntil_moves stop t.remaining h.steady
  exact h.of_moves (passed _).1 ⟨(passed _).2.at_rest, (passed _).2.booked⟩

theorem Between.scrape (h : Between t) (conduct : Path → Conduct) (c : Collector)
    (mounts : List Mount.Label) : Between (t.scrape conduct c mounts).1 := by
  obtain ⟨moves, steady, said⟩ := scrape_ended conduct c mounts h.steady h.orderly
  obtain ⟨bs, turns⟩ := h.turns
  have begun := turns.step (.begin t.traffic t.now c mounts) h.idle
  refine ⟨?_, ?_, steady⟩
  · obtain ⟨es, run, quiet⟩ := moves
    exact ⟨_, begun.append run quiet⟩
  · rw [isIdle_iff, moves.cycles_length]
    intro i below
    rw [Traffic.begin_cycles, List.length_append, List.length_singleton] at below
    rcases Nat.lt_succ_iff_lt_or_eq.mp below with earlier | rfl
    · obtain ⟨records, was⟩ := Option.isSome_iff_exists.mp (isIdle_iff.mp h.idle i earlier)
      have still : (t.traffic.begin t.now c mounts).records? i = some records :=
        Traffic.step_records (.begin t.traffic t.now c mounts) was
      rw [moves.records still]
      rfl
    · rw [said]
      rfl

theorem Between.scraped (h : Between t) (conduct : Path → Conduct) (c : Collector)
    (mounts : List Mount.Label) : ∃ es, Traffic.Scraped c mounts t.traffic.cycles.length es
      (t.scrape conduct c mounts).1.traffic (t.scrape conduct c mounts).2 := by
  obtain ⟨⟨es, run, _⟩, _, said⟩ := scrape_ended conduct c mounts h.steady h.orderly
  have begun := Traffic.Step.begin t.traffic t.now c mounts
  exact ⟨es, Traffic.scraped_of_run h.orderly begun run said⟩

end MountProbe.Timetable
