import MountProbe.Proofs.Watch.Steps

/-! No request to a watch is lost. A flag that is set stays set until the watch takes it, and what
it takes it does next. So a request is answered by something that begins after it, at the latest
six steps later, unless the watch ends first. -/
namespace MountProbe.Watch

/-- The place in the loop, counted from its top. -/
def Phase.turn : Phase → Nat
  | .check => 0
  | .reload => 1
  | .request => 2
  | .scrape => 3
  | .count => 4
  | .rest _ => 5
  | .stopping _ | .stopped _ => 0

/-- The place at which requests are answered. -/
def Request.turn : Request → Nat
  | .shutdown => 0
  | .reload => 1
  | .scrape => 3

/-- The most steps of a watch until it answers a request that it has. -/
def stepsTo (r : Request) (p : Phase) : Nat :=
  (r.turn + 6 - p.turn) % 6 + 1

/-- The flag of a request is set, or the watch has taken it and answers it next. -/
def holds (w : Watch) : Request → Prop
  | .shutdown => w.signals.shutdown = true
  | .reload => w.signals.reload = true
  | .scrape => w.signals.scrape = true ∨ w.phase = .scrape

def ownSteps (es : List Event) : Nat :=
  es.countP fun e => e matches .stepped _

theorem stepsTo_le (r : Request) (p : Phase) : stepsTo r p ≤ 6 := by
  unfold stepsTo
  omega

theorem one_le_stepsTo (r : Request) (p : Phase) : 1 ≤ stepsTo r p := by
  unfold stepsTo
  omega

theorem holds_raise (w : Watch) (r : Request) : (w.raise r).holds r := by
  cases r with
  | shutdown => exact rfl
  | reload => exact rfl
  | scrape => exact .inl rfl

section

variable {w v : Watch} {r : Request}

theorem holds_of_signals (held : w.holds r) (same : v.signals = w.signals)
    (elsewhere : w.phase ≠ .scrape) : v.holds r := by
  cases r with
  | shutdown => exact (congrArg Signals.shutdown same).trans held
  | reload => exact (congrArg Signals.reload same).trans held
  | scrape =>
    rcases held with set | taken
    · exact .inl ((congrArg Signals.scrape same).trans set)
    · exact absurd taken elsewhere

theorem isPending_of_holds (held : w.holds r) (elsewhere : w.phase ≠ .scrape) :
    w.signals.isPending = true := by
  cases r with
  | shutdown => simp [Signals.isPending, show w.signals.shutdown = true from held]
  | reload => simp [Signals.isPending, show w.signals.reload = true from held]
  | scrape =>
    rcases held with set | taken
    · simp [Signals.isPending, set]
    · exact absurd taken elsewhere

/-- A step keeps a request that it does not answer. -/
theorem Turn.holds (turn : Turn w v) (held : w.holds r) (other : w.answers? ≠ some r) :
    v.holds r := by
  cases turn with
  | stops place _ _ same | goesOn place _ _ same | counts _ place _ _ _ same
  | lies _ place _ same | wakes _ place _ same | rests _ place _ _ same
  | finishes _ place _ same _ =>
    apply holds_of_signals held same
    rw [place]
    intro there
    cases there
  | reloads place _ same =>
    cases r with
    | shutdown => exact (congrArg Signals.shutdown same).trans held
    | reload =>
      have asked : w.answers? = some .reload := by
        rw [answers?, place]
        exact if_pos held
      exact absurd asked other
    | scrape =>
      rcases held with set | taken
      · exact .inl ((congrArg Signals.scrape same).trans set)
      · rw [place] at taken
        cases taken
  | takes place next same =>
    cases r with
    | shutdown => exact (congrArg Signals.shutdown same).trans held
    | reload => exact (congrArg Signals.reload same).trans held
    | scrape => exact .inr next
  | scrapes place _ same | breaks _ place _ same =>
    cases r with
    | shutdown => exact (congrArg Signals.shutdown same).trans held
    | reload => exact (congrArg Signals.reload same).trans held
    | scrape =>
      have begun : w.answers? = some .scrape := by rw [answers?, place]
      exact absurd begun other
  | stays _ _ same => exact same ▸ held

theorem stepsTo_next {p q : Phase} (next : q.turn = (p.turn + 1) % 6) (later : p.turn ≠ r.turn) :
    stepsTo r q < stepsTo r p := by
  have low : p.turn ≤ 5 := by cases p <;> simp [Phase.turn]
  have first : r.turn ≤ 5 := by cases r <;> simp [Request.turn]
  unfold stepsTo
  omega

theorem answers_of_turn (held : w.holds r) (going : w.isOver = false)
    (here : w.phase.turn = r.turn) : w.answers? = some r := by
  unfold isOver at going
  unfold answers?
  cases r <;> cases place : w.phase <;> rw [place] at here going <;>
    simp_all [Phase.turn, Request.turn, Watch.holds]

/-- A step comes nearer to the answer of a request that the watch has, unless the watch ends. -/
theorem Turn.nearer (turn : Turn w v) (held : w.holds r) (other : w.answers? ≠ some r) :
    v.isOver = true ∨ stepsTo r v.phase < stepsTo r w.phase := by
  have nearer : w.isOver = false → v.phase.turn = (w.phase.turn + 1) % 6 →
      stepsTo r v.phase < stepsTo r w.phase := by
    intro going next
    apply stepsTo_next next
    intro here
    exact other (answers_of_turn held going here)
  cases turn with
  | stops _ _ next _ | breaks _ _ next _ | counts _ _ _ _ next _ | finishes _ _ next _ _ =>
    left
    rw [isOver, next]
  | goesOn place _ next _ | reloads place next _ | takes place next _ | scrapes place next _
  | lies _ place next _ | wakes _ place next _ =>
    right
    apply nearer
    · rw [isOver, place]
    · simp [place, next, Phase.turn]
  | rests _ place quiet _ _ =>
    have pending : w.signals.isPending = true := by
      apply isPending_of_holds held
      rw [place]
      intro there
      cases there
    rw [quiet] at pending
    cases pending
  | stays _ place same =>
    left
    rw [same, isOver, place]

/-- Why a watch that is over has ended. -/
def EndedBy (w : Watch) : Prop :=
  w.signals.shutdown = true ∨
    (∃ most, w.options.maxScrapes = some most ∧ most ≤ w.scrapes) ∨
    ∃ fault, w.phase = .stopping (.error (outputFailure fault)) ∨
      w.phase = .stopped (.error (outputFailure fault))

theorem shutdown_of_turn (turn : Turn w v) (asked : w.signals.shutdown = true) :
    v.signals.shutdown = true := by
  cases turn with
  | stops _ _ _ same | goesOn _ _ _ same | counts _ _ _ _ _ same | lies _ _ _ same
  | wakes _ _ _ same | rests _ _ _ _ same | finishes _ _ _ same _ | reloads _ _ same
  | takes _ _ same | scrapes _ _ same | breaks _ _ _ same =>
    exact (congrArg Signals.shutdown same).trans asked
  | stays _ _ same => exact same ▸ asked

theorem Turn.endedBy (turn : Turn w v) (options : v.options = w.options)
    (before : w.isOver = true → w.EndedBy) (finished : v.isOver = true) : v.EndedBy := by
  cases turn with
  | stops _ asked _ same => exact .inl ((congrArg Signals.shutdown same).trans asked)
  | breaks fault _ next _ => exact .inr (.inr ⟨fault, .inl next⟩)
  | counts most _ limit reached _ _ => exact .inr (.inl ⟨most, options ▸ limit, reached⟩)
  | finishes result place next same count =>
    have ended : w.isOver = true := by rw [isOver, place]
    rcases before ended with asked | ⟨most, limit, reached⟩ | ⟨fault, here | here⟩
    · exact .inl ((congrArg Signals.shutdown same).trans asked)
    · exact .inr (.inl ⟨most, options ▸ limit, count ▸ reached⟩)
    · rw [place] at here
      cases here
      exact .inr (.inr ⟨fault, .inr next⟩)
    · rw [place] at here
      cases here
  | stays _ _ same =>
    rw [same] at finished ⊢
    exact before finished
  | goesOn _ _ next _ | reloads _ next _ | takes _ next _ | scrapes _ next _ | lies _ _ next _
  | wakes _ _ next _ | rests _ _ _ next _ =>
    rw [isOver, next] at finished
    cases finished

/-- Whether a scrape may still begin once the watch has been asked to stop. -/
def scrapesLeft (p : Phase) : Nat :=
  match p with
  | .reload | .request | .scrape => 1
  | _ => 0

theorem Turn.scrapesLeft (turn : Turn w v) (asked : w.signals.shutdown = true) :
    (if w.answers? = some .scrape then 1 else 0) + scrapesLeft v.phase ≤ scrapesLeft w.phase := by
  cases turn with
  | goesOn _ unasked _ _ =>
    rw [asked] at unasked
    cases unasked
  | stays _ place same =>
    rw [same, answers?, place]
    simp
  | stops place _ next _ => simp [answers?, place, next, asked, Watch.scrapesLeft]
  | reloads place next _ =>
    rw [answers?, place, next]
    split <;> simp_all [Watch.scrapesLeft]
  | takes place next _ | scrapes place next _ | breaks _ place next _ | counts _ place _ _ next _
  | lies _ place next _ | wakes _ place next _ | rests _ place _ next _
  | finishes _ place next _ _ => simp [answers?, place, next, Watch.scrapesLeft]

theorem holds_of_raise (held : w.holds r) (new : Request) : (w.raise new).holds r := by
  cases new <;> cases r
  all_goals first
    | exact held
    | exact rfl
    | exact .inl rfl

theorem shutdown_of_raise (asked : w.signals.shutdown = true) (new : Request) :
    (w.raise new).signals.shutdown = true := by
  cases new
  · rfl
  · exact asked
  · exact asked

theorem step_options (host : Host) (env : Settings.Environment) (w : Watch) :
    (w.step host env).options = w.options := by
  by_cases asked : w.answers? = some .reload
  · rw [step_of_reload asked]
    obtain ⟨_, _, _, _, _, _, _, same⟩ :=
      reload_noted env { w with signals := w.signals.withoutReload }
    rw [same]
  · exact (step_keeps host env asked).options

end

section

variable {w v : Watch} {es : List Event} {r : Request}

/-- As long as a request is not answered the watch has it, and every step comes nearer to its
answer. -/
theorem waits_of_run (held : w.holds r) (run : Run w es v)
    (unanswered : .stepped (some r) ∉ es) : v.holds r ∧
      (v.isOver = true ∨ stepsTo r v.phase + ownSteps es ≤ stepsTo r w.phase) := by
  induction run with
  | refl => exact ⟨held, .inr (Nat.le_refl _)⟩
  | @move u v es e env before move ih =>
    rw [List.mem_append, List.mem_singleton, not_or] at unanswered
    obtain ⟨held, near⟩ := ih unanswered.1
    cases move with
    | step host _ =>
      have turn := step_turn host env u
      have other : u.answers? ≠ some r := by
        intro here
        exact unanswered.2 (by rw [here])
      have own : ownSteps (es ++ [.stepped u.answers?]) = ownSteps es + 1 := by
        simp [ownSteps]
      refine ⟨turn.holds held other, ?_⟩
      rcases near with finished | near
      · exact .inl (turn.remains finished)
      · rcases turn.nearer held other with finished | nearer
        · exact .inl finished
        · right
          omega
    | raise _ new =>
      have own : ownSteps (es ++ [.raised new]) = ownSteps es := by simp [ownSteps]
      rw [own]
      exact ⟨holds_of_raise held new, near⟩
    | change _ tree output freed =>
      have own : ownSteps (es ++ [.changed]) = ownSteps es := by simp [ownSteps]
      rw [own]
      refine ⟨?_, near⟩
      cases r <;> exact held

theorem scrapes_of_run (asked : w.signals.shutdown = true) (run : Run w es v) :
    v.signals.shutdown = true ∧
      es.count (.stepped (some .scrape)) + scrapesLeft v.phase ≤ scrapesLeft w.phase := by
  induction run with
  | refl => exact ⟨asked, by simp⟩
  | @move u v es e env before move ih =>
    obtain ⟨asked, few⟩ := ih
    rw [List.count_append, List.count_singleton]
    cases move with
    | step host _ =>
      have turn := step_turn host env u
      have last := turn.scrapesLeft asked
      refine ⟨shutdown_of_turn turn asked, ?_⟩
      simp only [beq_iff_eq, Event.stepped.injEq]
      omega
    | raise _ new => exact ⟨shutdown_of_raise asked new, few⟩
    | change _ tree output freed => exact ⟨asked, few⟩

theorem endedBy_of_run (begun : w.isOver = false) (run : Run w es v) (finished : v.isOver = true) :
    v.EndedBy := by
  induction run with
  | refl =>
    rw [begun] at finished
    cases finished
  | @move u v es e env before move ih =>
    cases move with
    | step host _ => exact (step_turn host env u).endedBy (step_options host env u) ih finished
    | raise _ new =>
      rcases ih finished with asked | ended
      · exact .inl (shutdown_of_raise asked new)
      · exact .inr ended
    | change _ tree output freed => exact ih finished

/-- What has become of the requests among some events. -/
structure Attended (es : List Event) (v : Watch) : Prop where
  /-- A scrape has begun after the request, or its flag is set, or the watch has just taken it. -/
  scrape : ∀ before after, es = before ++ .raised .scrape :: after →
    .stepped (some .scrape) ∈ after ∨ v.signals.scrape = true ∨ v.phase = .scrape
  reload : ∀ before after, es = before ++ .raised .reload :: after →
    .stepped (some .reload) ∈ after ∨ v.signals.reload = true
  /-- A flag ends the rest. -/
  wakes : v.signals.isPending = true → ∀ wake, v.phase = .rest wake →
    ∀ host env, (v.step host env).phase = .check
  soon : ∀ r before after, es = before ++ .raised r :: after → 6 ≤ ownSteps after →
    .stepped (some r) ∈ after ∨ v.isOver = true
  ended : v.isOver = true → v.EndedBy
  /-- At most one scrape begins after a request to stop. -/
  few : ∀ before after, es = before ++ .raised .shutdown :: after →
    after.count (.stepped (some .scrape)) ≤ 1

theorem wakes_of_pending (pending : v.signals.isPending = true) {wake : Nat}
    (place : v.phase = .rest wake) (host : Host) (env : Settings.Environment) :
    (v.step host env).phase = .check := by
  rw [Watch.step, place]
  dsimp only
  rw [restSlice, if_pos]
  rw [pending]
  rfl

theorem waits_of_raised {before after : List Event} (run : Run w es v)
    (split : es = before ++ .raised r :: after) (unanswered : .stepped (some r) ∉ after) :
    v.holds r ∧ (v.isOver = true ∨ ownSteps after < 6) := by
  subst split
  obtain ⟨u, rest⟩ := run_raised run
  obtain ⟨held, near⟩ := waits_of_run (holds_raise u r) rest unanswered
  have most := stepsTo_le r (u.raise r).phase
  have least := one_le_stepsTo r v.phase
  refine ⟨held, ?_⟩
  rcases near with finished | near
  · exact .inl finished
  · right
    omega

/-- Whatever happens to a watch, and in whatever order, each request is answered by what begins
after it or is still there to be answered. It is answered within six steps of the watch, unless
that has ended because it was asked to, has made its scrapes or could not write. -/
theorem requests_attended (begun : w.isOver = false) (run : Run w es v) : Attended es v := by
  constructor
  · intro before after split
    by_cases answered : .stepped (some .scrape) ∈ after
    · exact .inl answered
    · exact .inr (waits_of_raised run split answered).1
  · intro before after split
    by_cases answered : .stepped (some .reload) ∈ after
    · exact .inl answered
    · exact .inr (waits_of_raised run split answered).1
  · intro pending wake place host env
    exact wakes_of_pending pending place host env
  · intro r before after split enough
    by_cases answered : .stepped (some r) ∈ after
    · exact .inl answered
    · rcases (waits_of_raised run split answered).2 with finished | few
      · exact .inr finished
      · omega
  · intro finished
    exact endedBy_of_run begun run finished
  · intro before after split
    subst split
    obtain ⟨u, rest⟩ := run_raised run
    obtain ⟨-, few⟩ := scrapes_of_run (holds_raise u .shutdown) rest
    have one : scrapesLeft (u.raise .shutdown).phase ≤ 1 := by
      unfold scrapesLeft
      split <;> omega
    omega

end

def idleWatch : Watch where
  settings := .usual
  options := ⟨some 60000, none, none⟩
  collector := ⟨⟨⟨none, none⟩, ⟨none, none⟩⟩, 1, ⟨5000, false⟩⟩
  signals := .quiet
  logger := none
  told := 0
  scrapes := 0
  phase := .check
  world := .ofTree ⟨#[.dir 0 [] false], 0⟩
  epochMs := 0

def lateRequests : List (Option Request) :=
  [none, none, none, none, some .scrape, none, none, none, none, some .shutdown, none, none, none,
    none, none, none]

def lateEvents : List Event :=
  [.stepped none, .stepped none, .stepped none, .stepped (some .scrape), .raised .scrape,
    .stepped none, .stepped none, .stepped none, .stepped none, .raised .shutdown, .stepped none,
    .stepped (some .scrape), .stepped none, .stepped none, .stepped (some .shutdown),
    .stepped none]

theorem requests_attended_when_late : idleWatch.isOver = false ∧
    ∃ v, Run idleWatch lateEvents v ∧ v.isOver = true ∧ Attended lateEvents v := by
  have begun : idleWatch.isOver = false := rfl
  have run := run_played emptyHost (fun _ => none) idleWatch lateRequests
  have events : playedEvents emptyHost (fun _ => none) idleWatch lateRequests = lateEvents := by
    decide +kernel
  have finished : (played emptyHost (fun _ => none) idleWatch lateRequests).isOver = true := by
    decide +kernel
  rw [events] at run
  exact ⟨begun, _, run, finished, requests_attended begun run⟩

end MountProbe.Watch
