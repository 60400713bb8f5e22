import Mathlib.Data.Prod.Lex
import MountProbe.Proofs.Watch.Rounds

namespace MountProbe.Watch

/-- How far a place is from the next count of a scrape, or from the end. -/
def Phase.rank : Phase → Nat
  | .rest _ => 7
  | .check => 6
  | .reload => 5
  | .request => 4
  | .scrape => 3
  | .count => 2
  | .stopping _ => 1
  | .stopped _ => 0

def scrapesToGo (most : Nat) (w : Watch) : Nat :=
  if w.isOver then 0 else most - w.scrapes + 1

def restLeft (w : Watch) : Nat :=
  match w.phase with
  | .rest wake => wake - w.now
  | _ => 0

/-- What is left to do: a scrape may bring any time to rest, so the scrapes come first and the time
comes last. -/
def left (most : Nat) (w : Watch) : Nat ×ₗ Nat ×ₗ Nat :=
  toLex (w.scrapesToGo most, toLex (w.phase.rank, w.restLeft))

/-- Why a watch ends: it has made its scrapes, it was asked to end, or its output is broken. -/
inductive Cause (most : Nat) (rs : List Round) (v : Watch) : Except Failure Unit → Prop where
  | reached : v.scrapes = most → Cause most rs v (.ok ())
  | asked : v.signals.shutdown = true → v.scrapes < most → Cause most rs v (.ok ())
  | broken {text : String} {taken : Nat} {fault : IoFault} : .refused text taken fault ∈ rs →
    Cause most rs v (.error (outputFailure fault))

/-- A watch that is to make so many scrapes makes no more, and ends for a reason. -/
structure Bounds (most : Nat) (rs : List Round) (v : Watch) : Prop where
  limit : v.options.maxScrapes = some most
  going : v.isOver = false → v.scrapes < most
  stopping : ∀ result, v.phase = .stopping result → Cause most rs v result
  stopped : ∀ result, v.phase = .stopped result →
    ∃ r, result = r.map (fun () => v.scrapes) ∧ Cause most rs v r

section

variable {u v w : Watch} {host : Host} {env : Settings.Environment} {es : List Event}
  {most wake : Nat} {target : Option Path} {ms : List Mark} {rs rs' : List Round}

theorem left_lt : v.left most < w.left most ↔
    v.scrapesToGo most < w.scrapesToGo most ∨ v.scrapesToGo most = w.scrapesToGo most ∧
      (v.phase.rank < w.phase.rank ∨ v.phase.rank = w.phase.rank ∧ v.restLeft < w.restLeft) := by
  simp only [left, Prod.Lex.toLex_lt_toLex]

theorem count_next (host : Host) (env : Settings.Environment) (place : w.phase = .count)
    (limit : w.options.maxScrapes = some most) :
    most ≤ w.scrapes + 1 ∧ (w.step host env).phase = .stopping (.ok ()) ∨
      w.scrapes + 1 < most ∧ ∃ wake, (w.step host env).phase = .rest wake := by
  rw [Watch.step, place]
  dsimp only [countScrape]
  rw [limit]
  dsimp only
  by_cases reached : most ≤ w.scrapes + 1
  · rw [if_pos reached]
    exact .inl ⟨reached, rfl⟩
  · rw [if_neg reached]
    exact .inr ⟨Nat.lt_of_not_le reached, _, rfl⟩

theorem now_of_rest (place : w.phase = .rest wake)
    (rests : (w.step host env).phase = .rest wake) :
    w.now < wake ∧ w.now < (w.step host env).now := by
  rw [Watch.step, place] at rests ⊢
  dsimp only [restSlice] at rests ⊢
  split at rests
  · cases rests
  · rename_i on
    rw [if_neg on]
    rw [Bool.or_eq_true, decide_eq_true_eq, not_or, Nat.not_le] at on
    obtain ⟨_, _, _, _, _, same⟩ := noted_tell { w with world := { w.world with
      timetable := w.world.timetable.sleepUntil (min wake (w.now + slice)) } }
    rw [same]
    have later : w.now < min wake (w.now + slice) :=
      lt_min on.2 (Nat.lt_add_of_pos_right (by decide))
    exact ⟨on.2, lt_of_lt_of_le later (le_max_right _ _)⟩

theorem scrapesToGo_of_over (finished : w.isOver = true) : w.scrapesToGo most = 0 :=
  if_pos finished

theorem scrapesToGo_of_going (going : w.isOver = false) :
    w.scrapesToGo most = most - w.scrapes + 1 := by
  rw [scrapesToGo, going]
  rfl

theorem left_lt_of_over (going : w.isOver = false) (finished : v.isOver = true) :
    v.left most < w.left most := by
  rw [left_lt, scrapesToGo_of_over finished, scrapesToGo_of_going going]
  exact .inl (Nat.succ_pos _)

theorem left_lt_of_rank (going : w.isOver = false) (still : v.isOver = false)
    (scrapes : v.scrapes = w.scrapes) (nearer : v.phase.rank < w.phase.rank) :
    v.left most < w.left most := by
  rw [left_lt, scrapesToGo_of_going going, scrapesToGo_of_going still, scrapes]
  exact .inr ⟨rfl, .inl nearer⟩

/-- Each step leaves less to do until the watch has stopped. -/
theorem left_step (host : Host) (env : Settings.Environment)
    (limit : w.options.maxScrapes = some most) (going : w.result? = none) :
    (w.step host env).left most < w.left most := by
  have scrapes := step_scrapes host env w
  cases step_turn host env w with
  | stays result place _ =>
    rw [result?, place] at going
    cases going
  | finishes result place next _ _ =>
    rw [left_lt, scrapesToGo_of_over (by rw [isOver, next]), scrapesToGo_of_over
      (by rw [isOver, place]), place, next]
    exact .inr ⟨rfl, .inl (by simp [Phase.rank])⟩
  | stops place _ next _ | breaks _ place next _ | counts _ place _ _ next _ =>
    exact left_lt_of_over (by rw [isOver, place]) (by rw [isOver, next])
  | goesOn place _ next _ | reloads place next _ | takes place next _ | scrapes place next _
  | wakes _ place next _ =>
    rw [place] at scrapes
    refine left_lt_of_rank ?_ ?_ scrapes ?_
    · rw [isOver, place]
    · rw [isOver, next]
    · simp [place, next, Phase.rank]
  | lies wake place next _ =>
    rw [place] at scrapes
    rcases count_next host env place limit with ⟨-, stops⟩ | ⟨more, -⟩
    · rw [next] at stops
      cases stops
    · rw [left_lt, scrapesToGo_of_going (by rw [isOver, next]), scrapes,
        scrapesToGo_of_going (by rw [isOver, place])]
      left
      rw [Phase.isCount, if_pos rfl]
      omega
  | rests wake place _ next _ =>
    rw [place] at scrapes
    obtain ⟨early, later⟩ := now_of_rest place next
    rw [left_lt, scrapesToGo_of_going (by rw [isOver, next]), scrapes,
      scrapesToGo_of_going (by rw [isOver, place]), restLeft, restLeft, place, next]
    dsimp only
    exact .inr ⟨rfl, .inr ⟨rfl, by omega⟩⟩

theorem step_of_result {r : Except Failure Nat} (host : Host) (env : Settings.Environment)
    (stopped : w.result? = some r) : w.step host env = w := by
  unfold result? at stopped
  split at stopped
  · rename_i result place
    rw [Watch.step, place]
  · cases stopped

/-- What happens between the steps of a watch leaves as much to do as there was. -/
theorem left_of_run (limit : w.options.maxScrapes = some most) (run : Run w es v) :
    v.options.maxScrapes = some most ∧ v.left most ≤ w.left most ∧
      (1 ≤ ownSteps es → v.result? = none → v.left most < w.left most) := by
  induction run with
  | refl => exact ⟨limit, le_refl _, fun own => absurd own (by decide)⟩
  | @move u v es e env before move ih =>
    obtain ⟨kept, most_left, less⟩ := ih
    cases move with
    | step host _ =>
      refine ⟨(congrArg Options.maxScrapes (step_options host env u)).trans kept, ?_⟩
      cases stopped : u.result? with
      | none =>
        have lower := lt_of_lt_of_le (left_step host env kept stopped) most_left
        exact ⟨le_of_lt lower, fun _ _ => lower⟩
      | some r =>
        rw [step_of_result host env stopped]
        refine ⟨most_left, fun _ going => ?_⟩
        rw [stopped] at going
        cases going
    | raise _ new =>
      have own : ownSteps (es ++ [.raised new]) = ownSteps es := by simp [ownSteps]
      rw [own]
      exact ⟨kept, most_left, less⟩
    | change _ tree output freed =>
      have own : ownSteps (es ++ [.changed]) = ownSteps es := by simp [ownSteps]
      rw [own]
      exact ⟨kept, most_left, less⟩

theorem ends_of_limit (f : Nat → Watch) (limit : (f 0).options.maxScrapes = some most)
    (goes : ∀ k, ∃ es, Run (f k) es (f (k + 1)) ∧ 1 ≤ ownSteps es) :
    ∃ k r, (f k).result? = some r := by
  generalize start : (f 0).left most = amount
  induction amount using WellFoundedLT.induction generalizing f with
  | ind amount ih =>
    cases stopped : (f 1).result? with
    | some r => exact ⟨1, r, stopped⟩
    | none =>
      obtain ⟨es, run, own⟩ := goes 0
      obtain ⟨kept, -, less⟩ := left_of_run limit run
      obtain ⟨k, r, ended⟩ := ih _ (start ▸ less own stopped) (fun k => f (k + 1)) kept
        (fun k => goes (k + 1)) rfl
      exact ⟨k + 1, r, ended⟩

theorem Cause.mono {result : Except Failure Unit} (cause : Cause most rs u result)
    (scrapes : v.scrapes = u.scrapes)
    (asked : u.signals.shutdown = true → v.signals.shutdown = true) (more : rs ⊆ rs') :
    Cause most rs' v result := by
  cases cause with
  | reached count => exact .reached (scrapes.trans count)
  | asked shutdown fewer => exact .asked (asked shutdown) (scrapes ▸ fewer)
  | broken member => exact .broken (more member)

theorem Bounds.of_kept (bounds : Bounds most rs u) (options : v.options = u.options)
    (phase : v.phase = u.phase) (scrapes : v.scrapes = u.scrapes)
    (asked : u.signals.shutdown = true → v.signals.shutdown = true) (more : rs ⊆ rs') :
    Bounds most rs' v where
  limit := (congrArg Options.maxScrapes options).trans bounds.limit
  going on := by
    rw [scrapes]
    refine bounds.going ?_
    rwa [isOver, ← phase]
  stopping result place :=
    (bounds.stopping result (phase.symm.trans place)).mono scrapes asked more
  stopped result place := by
    obtain ⟨r, same, cause⟩ := bounds.stopped result (phase.symm.trans place)
    rw [scrapes]
    exact ⟨r, same, cause.mono scrapes asked more⟩

theorem Bounds.of_going (limit : v.options.maxScrapes = some most) (on : v.isOver = false)
    (fewer : v.scrapes < most) : Bounds most rs v where
  limit := limit
  going _ := fewer
  stopping result place := by
    rw [isOver, place] at on
    cases on
  stopped result place := by
    rw [isOver, place] at on
    cases on

theorem Bounds.of_stopping {result : Except Failure Unit}
    (limit : v.options.maxScrapes = some most) (place : v.phase = .stopping result)
    (cause : Cause most rs v result) : Bounds most rs v where
  limit := limit
  going on := by
    rw [isOver, place] at on
    cases on
  stopping other here := by
    cases place.symm.trans here
    exact cause
  stopped other here := by
    rw [place] at here
    cases here

theorem step_bounds (host : Host) (env : Settings.Environment) (bounds : Bounds most rs w) :
    Bounds most (rs ++ rounds (w.marks host)) (w.step host env) := by
  have limit := (congrArg Options.maxScrapes (step_options host env w)).trans bounds.limit
  have scrapes := step_scrapes host env w
  cases step_turn host env w with
  | stays result place same =>
    rw [same]
    exact bounds.of_kept rfl rfl rfl id (List.subset_append_left _ _)
  | stops place asked next same =>
    rw [place] at scrapes
    refine .of_stopping limit next (.asked ((congrArg Signals.shutdown same).trans asked) ?_)
    rw [scrapes]
    exact bounds.going (by rw [isOver, place])
  | breaks fault place next _ =>
    have leads := next.symm.trans (phase_of_scrape host env place)
    rw [rounds_of_scrape place]
    generalize w.outcome host = r at leads
    cases r with
    | refused text taken other =>
      cases leads
      exact .of_stopping limit next
        (.broken (List.mem_append_right _ (List.mem_singleton_self _)))
    | failed | printed | filed | unfiled => cases leads
  | counts _ place _ _ next _ =>
    rw [place] at scrapes
    have fewer := bounds.going (by rw [isOver, place])
    rcases count_next host env place bounds.limit with ⟨reached, -⟩ | ⟨-, _, rests⟩
    · exact .of_stopping limit next (.reached (scrapes.trans (Nat.le_antisymm fewer reached)))
    · rw [next] at rests
      cases rests
  | lies _ place next _ =>
    rw [place] at scrapes
    rcases count_next host env place bounds.limit with ⟨-, stops⟩ | ⟨more, -⟩
    · rw [next] at stops
      cases stops
    · exact .of_going limit (by rw [isOver, next]) (scrapes ▸ more)
  | finishes result place next same count =>
    refine ⟨limit, fun on => ?_, fun other here => ?_, fun other here => ?_⟩
    · rw [isOver, next] at on
      cases on
    · rw [next] at here
      cases here
    · cases next.symm.trans here
      exact ⟨result, rfl, (bounds.stopping result place).mono count
        (congrArg Signals.shutdown same).trans (List.subset_append_left _ _)⟩
  | goesOn place _ next _ | reloads place next _ | takes place next _ | scrapes place next _
  | wakes _ place next _ | rests _ place _ next _ =>
    rw [place] at scrapes
    refine .of_going limit (by rw [isOver, next]) ?_
    rw [scrapes]
    exact bounds.going (by rw [isOver, place])

theorem Rounds.bounds (begun : Bounds most [] w) (run : Rounds target w ms v) :
    Bounds most (rounds ms) v := by
  induction run with
  | refl => exact begun
  | step host env _ _ ih =>
    rw [rounds_append]
    exact step_bounds host env ih
  | raise r _ ih =>
    exact ih.of_kept rfl rfl rfl (fun asked => shutdown_of_raise asked r) (List.Subset.refl _)
  | change tree output freed _ _ ih =>
    rw [rounds_append]
    exact ih.of_kept rfl rfl rfl id (List.subset_append_left _ _)

end

end MountProbe.Watch
