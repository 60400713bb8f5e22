import Mathlib.Data.List.Basic
import MountProbe.Watch.Loop

/-! What one step of a watch does: to the requests that reach it, to its place in the loop, and to
the settings and the collector in use. Requests, and changes of the files, the output and the
environment, come between any two steps. -/
namespace MountProbe

/-- Files and the output change as they like, and calls that hang may come back. -/
def World.changed (w : World) (tree : FileTree) (output : Output) (freed : Path → Bool) : World :=
  { w with scene := { w.scene with tree }, output, timetable := w.timetable.letGo freed }

namespace Watch

/-- The request that the next step answers: the watch stops, tries to read its settings again, or
begins a scrape. -/
def answers? (w : Watch) : Option Request :=
  match w.phase with
  | .check => if w.signals.shutdown then some .shutdown else none
  | .reload => if w.signals.reload then some .reload else none
  | .scrape => some .scrape
  | _ => none

inductive Event where
  | raised (r : Request)
  /-- A step of the watch itself, and the request that it answers. -/
  | stepped (answered : Option Request)
  | changed
deriving DecidableEq

inductive Move (env : Settings.Environment) : Watch → Event → Watch → Prop where
  | step (host : Host) (w : Watch) : Move env w (.stepped w.answers?) (w.step host env)
  | raise (w : Watch) (r : Request) : Move env w (.raised r) (w.raise r)
  | change (w : Watch) (tree : FileTree) (output : Output) (freed : Path → Bool) :
    Move env w .changed { w with world := w.world.changed tree output freed }

/-- What can come of a watch, and what happens on the way. -/
inductive Run : Watch → List Event → Watch → Prop where
  | refl (w : Watch) : Run w [] w
  | move {w u v : Watch} {es : List Event} {e : Event} {env : Settings.Environment} :
    Run w es u → Move env u e v → Run w (es ++ [e]) v

/-- What stands where the settings' file is named. -/
def finds (found : Settings.Found) (w : Watch) : Prop :=
  w.world.tree.lookup w.settings.paths.configFile = found

/-- A run in one environment, where each reload finds the same in its file. -/
inductive Steady (env : Settings.Environment) (found : Settings.Found) :
    Watch → List Event → Watch → Prop where
  | refl (w : Watch) : Steady env found w [] w
  | move {w u v : Watch} {es : List Event} {e : Event} :
    Steady env found w es u → Move env u e v →
      (e = .stepped (some .reload) → u.finds found) → Steady env found w (es ++ [e]) v

section

variable {w u v : Watch} {es fs : List Event}

theorem Steady.run {env : Settings.Environment} {found : Settings.Found}
    (steady : Steady env found w es v) : Run w es v := by
  induction steady with
  | refl => exact .refl _
  | move _ move _ ih => exact ih.move move

theorem run_cons {env : Settings.Environment} {e : Event} (move : Move env w e u)
    (run : Run u es v) : Run w (e :: es) v := by
  induction run with
  | refl => exact Run.move (.refl w) move
  | move before last ih => exact ih.move last

theorem run_append (run : Run w (es ++ fs) v) : ∃ u, Run w es u ∧ Run u fs v := by
  generalize whole : es ++ fs = all at run
  induction run generalizing fs with
  | refl =>
    obtain ⟨rfl, rfl⟩ := List.append_eq_nil_iff.mp whole
    exact ⟨w, .refl w, .refl w⟩
  | @move u v all e env before move ih =>
    rcases List.eq_nil_or_concat fs with rfl | ⟨gs, g, rfl⟩
    · rw [List.append_nil] at whole
      subst whole
      exact ⟨v, before.move move, .refl v⟩
    · rw [List.concat_eq_append, ← List.append_assoc] at whole
      obtain ⟨earlier, last⟩ := List.append_inj' whole rfl
      cases last
      obtain ⟨x, first, rest⟩ := ih earlier
      rw [List.concat_eq_append]
      exact ⟨x, first, rest.move move⟩

theorem run_raised {r : Request} (run : Run w (es ++ .raised r :: fs) v) :
    ∃ u : Watch, Run (u.raise r) fs v := by
  rw [List.append_cons] at run
  obtain ⟨u, first, rest⟩ := run_append run
  generalize whole : es ++ [Event.raised r] = all at first
  cases first with
  | refl => simp at whole
  | @move x _ _ _ _ _ move =>
    obtain ⟨-, last⟩ := List.append_inj' whole rfl
    cases last
    cases move
    exact ⟨x, rest⟩

end

/-- A system in which nothing is mounted. -/
def emptyHost : Host :=
  ⟨fun _ => ⟨[], .ok []⟩, fun _ => ⟨.broken "gone", none⟩⟩

/-- What comes of requests in an order, where nothing else happens: none stands for a step. -/
def played (host : Host) (env : Settings.Environment) : Watch → List (Option Request) → Watch
  | w, [] => w
  | w, none :: rest => played host env (w.step host env) rest
  | w, some r :: rest => played host env (w.raise r) rest

def playedEvents (host : Host) (env : Settings.Environment) :
    Watch → List (Option Request) → List Event
  | _, [] => []
  | w, none :: rest => .stepped w.answers? :: playedEvents host env (w.step host env) rest
  | w, some r :: rest => .raised r :: playedEvents host env (w.raise r) rest

theorem run_played (host : Host) (env : Settings.Environment) (w : Watch)
    (rs : List (Option Request)) : Run w (playedEvents host env w rs) (played host env w rs) := by
  induction rs generalizing w with
  | nil => exact .refl w
  | cons r rest ih =>
    cases r with
    | none =>
      have move : Move env w (.stepped w.answers?) (w.step host env) := .step host w
      exact run_cons move (ih _)
    | some r =>
      have move : Move env w (.raised r) (w.raise r) := .raise w r
      exact run_cons move (ih _)

section

variable {w v : Watch}

/-- All that makes `v` differ from `w` is what the watch has written and logged. -/
def Noted (w v : Watch) : Prop :=
  ∃ scene events logger told, logger.isSome = w.logger.isSome ∧
    v = { w with
      world := { w.world with
        scene
        timetable := { w.world.timetable with
          traffic := { w.world.timetable.traffic with events } } }
      logger, told }

theorem Noted.trans {u v w : Watch} (first : Noted u v) (later : Noted v w) : Noted u w := by
  obtain ⟨_, _, _, _, kept, rfl⟩ := first
  obtain ⟨scene, events, logger, told, still, rfl⟩ := later
  exact ⟨scene, events, logger, told, still.trans kept, rfl⟩

theorem noted_complain (w : Watch) (text : String) : Noted w (w.complain text) :=
  ⟨_, _, _, _, rfl, rfl⟩

theorem noted_tell (w : Watch) : Noted w w.tell := by
  unfold tell
  split
  · exact ⟨_, _, _, _, rfl, rfl⟩
  · rename_i l logger
    exact ⟨_, _, some _, _, by rw [logger]; rfl, rfl⟩

theorem noted_log (w : Watch) (e : Journal.Event) : Noted w (w.log e) := by
  unfold log
  refine Noted.trans ?_ (noted_tell _)
  unfold Traffic.log
  split <;> exact ⟨_, _, _, _, rfl, rfl⟩

theorem noted_fail (w : Watch) (before : String) (f : Failure) : Noted w (w.fail before f) :=
  (noted_complain w _).trans (noted_log _ _)

def Scraped (w v : Watch) (phase : Phase) : Prop :=
  ∃ world logger told, logger.isSome = w.logger.isSome ∧
    v = { w with world, logger, told, phase }

theorem Noted.scraped (noted : Noted w v) : Scraped w v w.phase := by
  obtain ⟨_, _, _, _, kept, rfl⟩ := noted
  exact ⟨_, _, _, kept, rfl⟩

theorem Scraped.moved {phase : Phase} (scraped : Scraped w v phase) (next : Phase) :
    Scraped w { v with phase := next } next := by
  obtain ⟨_, _, _, kept, rfl⟩ := scraped
  exact ⟨_, _, _, kept, rfl⟩

theorem Scraped.trans {u v w : Watch} {phase next : Phase} (first : Scraped u v phase)
    (later : Scraped v w next) : Scraped u w next := by
  obtain ⟨_, _, _, kept, rfl⟩ := first
  obtain ⟨world, logger, told, still, rfl⟩ := later
  exact ⟨world, logger, told, still.trans kept, rfl⟩

theorem scraped_world (w : Watch) (world : World) : Scraped w { w with world } w.phase :=
  ⟨world, _, _, rfl, rfl⟩

def outputFailure (fault : IoFault) : Failure :=
  .io (Path.ofString "<stdout>") fault

def ScrapeEnds (w v : Watch) : Prop :=
  Scraped w v .count ∨ ∃ fault, Scraped w v (.stopping (.error (outputFailure fault)))

theorem publish_ends (w : Watch) (text : String) : ScrapeEnds w (w.publish text) := by
  unfold publish
  split
  · dsimp only
    split
    · exact .inl ⟨_, _, _, rfl, rfl⟩
    · exact .inl ((scraped_world w _).trans ((noted_fail _ "" _).scraped.moved .count))
  · dsimp only
    split
    · exact .inl ⟨_, _, _, rfl, rfl⟩
    · rename_i fault _
      exact .inr ⟨fault, _, _, _, rfl, rfl⟩

theorem scrapeOnce_ends (host : Host) (w : Watch) : ScrapeEnds w (w.scrapeOnce host) := by
  unfold scrapeOnce
  split
  · rename_i world f _
    have failed := (noted_fail { w with world } "scrape failed: " f).scraped
    exact .inl ((scraped_world w world).trans (failed.moved .count))
  · rename_i world records _
    have told := (scraped_world w world).trans (noted_tell { w with world }).scraped
    rcases publish_ends _ (Gauge.ofRecords records).text with done | ⟨fault, broken⟩
    · exact .inl (told.trans done)
    · exact .inr ⟨fault, told.trans broken⟩

/-- What the settings' file and an environment say at this time. -/
def reads [Patterns] (env : Settings.Environment) (w : Watch) : Except Failure Settings :=
  Settings.load (some w.settings.paths.configFile) w.world.tree.lookup env

def askedAgain (w : Watch) : Watch :=
  w.complain "[MG-WATCH] config reload requested (SIGHUP)\n"

/-- The watch after it has found its settings unchanged. -/
def skipped (w : Watch) : Watch :=
  w.askedAgain.complain "[MG-WATCH] config unchanged, skipping reload\n"

/-- The watch with other settings and the collector that was built from them. -/
def adopted (w : Watch) (settings : Settings) (collector : Collector) : Watch :=
  let hashes := "config hash: " ++ fingerprint w.settings ++ " -> " ++ fingerprint settings
  { { w with collector }.log (.configReloaded hashes) with settings }.complain
    "[MG-WATCH] config reloaded successfully\n"

/-- The four ways in which a reload can end. -/
inductive Reload [Patterns] (env : Settings.Environment) (w : Watch) : Watch → Prop where
  | failed {f : Failure} : w.reads env = .error f →
    Reload env w (w.askedAgain.fail "config reload failed: " f)
  | unchanged {s : Settings} : w.reads env = .ok s → fingerprint w.settings = fingerprint s →
    Reload env w w.skipped
  | rejected {s : Settings} {f : Failure} (text : String) : w.reads env = .ok s →
    fingerprint w.settings ≠ fingerprint s →
    Collector.ofSettings s.collector w.logger.isSome = .error f →
    Reload env w ((w.complain text).fail "config reload rejected: " f)
  | adopted {s : Settings} {c : Collector} (text : String) : w.reads env = .ok s →
    fingerprint w.settings ≠ fingerprint s →
    Collector.ofSettings s.collector w.logger.isSome = .ok c →
    Reload env w ((w.complain text).adopted s c)

theorem complain_complain (w : Watch) (first later : String) :
    (w.complain first).complain later = w.complain (first ++ later) := by
  simp only [complain, World.complain, Journal.Scene.complain, String.append_assoc]

theorem reload_cases [Patterns] (env : Settings.Environment) (w : Watch) :
    Reload env w (w.reload env) := by
  unfold Watch.reload
  extract_lets asked
  split
  · rename_i f read
    exact .failed read
  · rename_i s read
    extract_lets after moved told
    split
    · rename_i same
      exact .unchanged read same
    · rename_i new
      obtain ⟨text, warned⟩ : ∃ text, told = w.complain text := by
        unfold told
        split
        · exact ⟨_, complain_complain w _ _⟩
        · exact ⟨_, rfl⟩
      rw [warned]
      split
      · rename_i f refused
        exact .rejected text read new refused
      · rename_i c built
        exact .adopted text read new built

theorem noted_askedAgain (w : Watch) : Noted w w.askedAgain :=
  noted_complain w _

theorem noted_skipped (w : Watch) : Noted w w.skipped :=
  (noted_askedAgain w).trans (noted_complain _ _)

theorem noted_adopted (w : Watch) (s : Settings) (c : Collector) :
    Noted { w with settings := s, collector := c } (w.adopted s c) := by
  unfold adopted
  obtain ⟨_, _, _, _, kept, same⟩ := noted_log { w with collector := c } (.configReloaded
    ("config hash: " ++ fingerprint w.settings ++ " -> " ++ fingerprint s))
  dsimp only
  rw [same]
  exact ⟨_, _, _, _, kept, rfl⟩

theorem reload_noted (env : Settings.Environment) (w : Watch) :
    ∃ settings collector, Noted { w with settings, collector } (w.reload env) := by
  generalize reloaded : w.reload env = v
  have ended := reload_cases env w
  rw [reloaded] at ended
  cases ended with
  | failed read => exact ⟨_, _, (noted_askedAgain w).trans (noted_fail _ _ _)⟩
  | unchanged read same => exact ⟨_, _, noted_skipped w⟩
  | rejected text read new refused => exact ⟨_, _, (noted_complain w text).trans (noted_fail _ _ _)⟩
  | @adopted s c text read new built =>
    refine ⟨s, c, Noted.trans ?_ (noted_adopted (w.complain text) s c)⟩
    exact noted_complain { w with settings := s, collector := c } text

theorem finish_ends (w : Watch) (result : Except Failure Unit) :
    ∃ scene events told, w.finish result = { w with
      world := { w.world with
        scene
        timetable := { w.world.timetable with
          traffic := { w.world.timetable.traffic with events } } }
      logger := none, told, phase := .stopped (result.map fun () => w.scrapes) } := by
  obtain ⟨_, _, logger, _, _, same⟩ :=
    noted_log w (.collectorStopped "clean shutdown" (w.now / 1000000))
  unfold finish
  dsimp only
  rw [same]
  cases logger <;> exact ⟨_, _, _, rfl⟩

/-- The watch when this time has come, and its events are yet to be logged. -/
def sleptTo (w : Watch) (time : Nat) : Watch :=
  { w with world := { w.world with timetable := w.world.timetable.sleepUntil time } }

/-- What a watch does at its place in the loop. -/
inductive Does (host : Host) (env : Settings.Environment) (w : Watch) : Watch → Prop where
  | heeds : w.phase = .check → w.signals.shutdown = true → Does host env w
    { w.complain "[MG-WATCH] shutdown requested\n" with phase := .stopping (.ok ()) }
  | goesOn : w.phase = .check → w.signals.shutdown = false → Does host env w
    { w with phase := .reload }
  | reloads : w.phase = .reload → w.signals.reload = true → Does host env w
    { { w with signals := w.signals.withoutReload }.reload env with phase := .request }
  | passes : w.phase = .reload → w.signals.reload = false → Does host env w
    { w with phase := .request }
  | takes : w.phase = .request → Does host env w
    { w with signals := w.signals.withoutScrape, phase := .scrape }
  | scrapes : w.phase = .scrape → Does host env w (w.scrapeOnce host)
  | stops {most : Nat} : w.phase = .count → w.options.maxScrapes = some most →
    most ≤ w.scrapes + 1 → Does host env w
    { w with scrapes := w.scrapes + 1, phase := .stopping (.ok ()) }
  | lies (wake : Nat) : w.phase = .count →
    (∀ most, w.options.maxScrapes = some most → w.scrapes + 1 < most) → Does host env w
    { w with scrapes := w.scrapes + 1, phase := .rest wake }
  | wakes {wake : Nat} : w.phase = .rest wake → Does host env w { w with phase := .check }
  | rests {wake : Nat} : w.phase = .rest wake → w.signals.isPending = false → w.now < wake →
    Does host env w (w.sleptTo (min wake (w.now + slice))).tell
  | finishes {result : Except Failure Unit} : w.phase = .stopping result →
    Does host env w (w.finish result)
  | stays {result : Except Failure Nat} : w.phase = .stopped result → Does host env w w

theorem step_does (host : Host) (env : Settings.Environment) (w : Watch) :
    Does host env w (w.step host env) := by
  unfold Watch.step
  split
  · rename_i place
    split
    · rename_i asked
      exact .heeds place asked
    · rename_i unasked
      exact .goesOn place ((Bool.not_eq_true _).mp unasked)
  · rename_i place
    split
    · rename_i asked
      exact .reloads place asked
    · rename_i unasked
      exact .passes place ((Bool.not_eq_true _).mp unasked)
  · rename_i place
    exact .takes place
  · rename_i place
    exact .scrapes place
  · rename_i place
    unfold countScrape
    dsimp only
    split
    · rename_i most limit
      split
      · rename_i reached
        exact .stops place limit reached
      · rename_i more
        refine .lies _ place fun other here => ?_
        cases limit.symm.trans here
        exact Nat.not_le.mp more
    · rename_i unlimited
      refine .lies _ place fun other here => ?_
      rw [unlimited] at here
      cases here
  · rename_i wake place
    unfold restSlice
    split
    · exact .wakes place
    · rename_i on
      rw [Bool.or_eq_true, decide_eq_true_eq, not_or, Bool.not_eq_true, Nat.not_le] at on
      exact .rests place on.1 on.2
  · rename_i result place
    exact .finishes place
  · rename_i result place
    exact .stays place

/-- What a step does to the requests and to the place in the loop. -/
inductive Turn (w v : Watch) : Prop where
  | stops : w.phase = .check → w.signals.shutdown = true → v.phase = .stopping (.ok ()) →
    v.signals = w.signals → Turn w v
  | goesOn : w.phase = .check → w.signals.shutdown = false → v.phase = .reload →
    v.signals = w.signals → Turn w v
  | reloads : w.phase = .reload → v.phase = .request →
    v.signals = w.signals.withoutReload → Turn w v
  | takes : w.phase = .request → v.phase = .scrape → v.signals = w.signals.withoutScrape → Turn w v
  | scrapes : w.phase = .scrape → v.phase = .count → v.signals = w.signals → Turn w v
  | breaks (fault : IoFault) : w.phase = .scrape →
    v.phase = .stopping (.error (outputFailure fault)) → v.signals = w.signals → Turn w v
  | counts (most : Nat) : w.phase = .count → w.options.maxScrapes = some most →
    most ≤ v.scrapes → v.phase = .stopping (.ok ()) → v.signals = w.signals → Turn w v
  | lies (wake : Nat) : w.phase = .count → v.phase = .rest wake → v.signals = w.signals → Turn w v
  | wakes (wake : Nat) : w.phase = .rest wake → v.phase = .check → v.signals = w.signals → Turn w v
  | rests (wake : Nat) : w.phase = .rest wake → w.signals.isPending = false →
    v.phase = .rest wake → v.signals = w.signals → Turn w v
  | finishes (result : Except Failure Unit) : w.phase = .stopping result →
    v.phase = .stopped (result.map fun () => v.scrapes) → v.signals = w.signals →
    v.scrapes = w.scrapes → Turn w v
  | stays (result : Except Failure Nat) : w.phase = .stopped result → v = w → Turn w v

theorem withoutReload_of_unset {s : Signals} (unset : s.reload = false) : s.withoutReload = s := by
  cases s
  cases unset
  rfl

theorem step_turn (host : Host) (env : Settings.Environment) (w : Watch) :
    Turn w (w.step host env) := by
  generalize stepped : w.step host env = v
  cases stepped ▸ step_does host env w with
  | heeds place asked => exact .stops place asked rfl rfl
  | goesOn place unasked => exact .goesOn place unasked rfl rfl
  | reloads place _ =>
    obtain ⟨_, _, _, _, _, _, _, same⟩ :=
      reload_noted env { w with signals := w.signals.withoutReload }
    rw [same]
    exact .reloads place rfl rfl
  | passes place unset =>
    refine .reloads place rfl ?_
    rw [withoutReload_of_unset unset]
  | takes place => exact .takes place rfl rfl
  | scrapes place =>
    rcases scrapeOnce_ends host w with ⟨_, _, _, _, same⟩ | ⟨fault, _, _, _, _, same⟩
    · rw [same]
      exact .scrapes place rfl rfl
    · rw [same]
      exact .breaks fault place rfl rfl
  | @stops most place limit reached => exact .counts most place limit reached rfl rfl
  | lies wake place _ => exact .lies wake place rfl rfl
  | wakes place => exact .wakes _ place rfl rfl
  | @rests wake place quiet _ =>
    obtain ⟨_, _, _, _, _, same⟩ := noted_tell (w.sleptTo (min wake (w.now + slice)))
    rw [same]
    exact .rests wake place quiet place rfl
  | @finishes result place =>
    obtain ⟨_, _, _, same⟩ := finish_ends w result
    rw [same]
    exact .finishes result place rfl rfl rfl
  | stays place => exact .stays _ place rfl

def isOver (w : Watch) : Bool :=
  match w.phase with
  | .stopping _ | .stopped _ => true
  | _ => false

theorem Turn.remains (turn : Turn w v) (finished : w.isOver = true) : v.isOver = true := by
  unfold isOver at finished
  cases turn with
  | finishes _ _ next _ _ => rw [isOver, next]
  | stays _ place same => rw [same, isOver, place]
  | stops place _ _ _ | goesOn place _ _ _ | reloads place _ _ | takes place _ _
  | scrapes place _ _ | breaks _ place _ _ | counts _ place _ _ _ _ | lies _ place _ _
  | wakes _ place _ _ | rests _ place _ _ _ =>
    rw [place] at finished
    cases finished

/-- The settings, the options and the collector stay, and so does the logger until the end. -/
structure Keeps (w v : Watch) : Prop where
  settings : v.settings = w.settings
  options : v.options = w.options
  collector : v.collector = w.collector
  logger : v.isOver = false → v.logger.isSome = w.logger.isSome

theorem Scraped.keeps {phase : Phase} (scraped : Scraped w v phase) : Keeps w v := by
  obtain ⟨_, _, _, kept, rfl⟩ := scraped
  exact ⟨rfl, rfl, rfl, fun _ => kept⟩

theorem Noted.keeps (noted : Noted w v) : Keeps w v :=
  noted.scraped.keeps

theorem step_keeps (host : Host) (env : Settings.Environment)
    (other : w.answers? ≠ some .reload) : Keeps w (w.step host env) := by
  generalize stepped : w.step host env = v
  cases stepped ▸ step_does host env w with
  | heeds | goesOn | passes | takes | stops | lies | wakes | stays =>
    exact ⟨rfl, rfl, rfl, fun _ => rfl⟩
  | reloads place asked =>
    rw [answers?, place] at other
    exact absurd (if_pos asked) other
  | scrapes _ =>
    rcases scrapeOnce_ends host w with scraped | ⟨fault, scraped⟩
    · exact scraped.keeps
    · exact scraped.keeps
  | rests _ _ _ => exact ((scraped_world w _).trans (noted_tell _).scraped).keeps
  | finishes _ =>
    obtain ⟨_, _, _, same⟩ := finish_ends w _
    rw [same]
    exact ⟨rfl, rfl, rfl, fun going => by cases going⟩

theorem answers?_eq_reload :
    w.answers? = some .reload ↔ w.phase = .reload ∧ w.signals.reload = true := by
  unfold answers?
  split
  · simp [*]
  · simp [*]
  · simp [*]
  · rename_i other _
    simp only [reduceCtorEq, false_iff, not_and]
    intro place
    exact absurd place other

theorem step_of_reload {host : Host} {env : Settings.Environment}
    (asked : w.answers? = some .reload) : w.step host env =
      { { w with signals := w.signals.withoutReload }.reload env with phase := .request } := by
  obtain ⟨place, flag⟩ := answers?_eq_reload.mp asked
  rw [step, place]
  exact if_pos flag

end

end Watch

end MountProbe
