import Mathlib.Data.List.Permutation
import MountProbe.Proofs.Settings.Loaded
import MountProbe.Proofs.Watch.Steps

/-! What a reload does. Settings that cannot be read or used change nothing but the log; others
come into use together with the collector that is built from them. So the collector is always that
of the settings, and no reload touches the registry of stuck mounts. -/
namespace MountProbe

/-- A collector does what its settings say. -/
structure CollectorSettings.InUse [Patterns] (s : CollectorSettings) (c : Collector) : Prop where
  filters : MountFilters.ofSettings s = .ok c.filters
  workers : c.workers = s.workers
  timeout : c.guard.timeoutMs = s.mountTimeoutMs

theorem Collector.inUse_of_built [Patterns] {s : CollectorSettings} {logged : Bool} {c : Collector}
    (built : Collector.ofSettings s logged = .ok c) : s.InUse c := by
  unfold Collector.ofSettings at built
  cases read : MountFilters.ofSettings s with
  | error f =>
    rw [read] at built
    cases built
  | ok filters =>
    rw [read] at built
    cases built
    exact ⟨read, rfl, rfl⟩

namespace Watch

/-- The events that the logger has been given. -/
def handed (w : Watch) : List Journal.Event :=
  w.world.events.take w.told

/-- What the logger is given of an event, if there is one. -/
def heard (w : Watch) (e : Journal.Event) : List Journal.Event :=
  if w.logger.isSome then [e] else []

def Current (w : Watch) : Prop :=
  w.logger.isSome = true → w.told = w.world.events.length

/-- A reload that changes nothing. -/
structure Idles (w v : Watch) : Prop where
  settings : v.settings = w.settings
  collector : v.collector = w.collector
  handed : v.handed = w.handed

/-- A reload that changes nothing but tells the logger of an error. -/
structure Fails (before : String) (f : Failure) (w v : Watch) : Prop where
  settings : v.settings = w.settings
  collector : v.collector = w.collector
  handed : v.handed = w.handed ++ w.heard (.error f.code (before ++ f.message))

structure Adopts (s : Settings) (c : Collector) (w v : Watch) : Prop where
  settings : v.settings = s
  collector : v.collector = c
  handed : v.handed = w.handed ++ w.heard (.configReloaded
    ("config hash: " ++ fingerprint w.settings ++ " -> " ++ fingerprint s))

/-- How a reload ends, by what it reads. -/
inductive Reloaded (env : Settings.Environment) (w v : Watch) : Prop where
  | failed {f : Failure} : w.reads env = .error f → Fails "config reload failed: " f w v →
    Reloaded env w v
  | unchanged {s : Settings} : w.reads env = .ok s → fingerprint w.settings = fingerprint s →
    Idles w v → Reloaded env w v
  | rejected {s : Settings} {f : Failure} : w.reads env = .ok s →
    fingerprint w.settings ≠ fingerprint s →
    Collector.ofSettings s.collector w.logger.isSome = .error f →
    Fails "config reload rejected: " f w v → Reloaded env w v
  | adopted {s : Settings} {c : Collector} : w.reads env = .ok s →
    fingerprint w.settings ≠ fingerprint s →
    Collector.ofSettings s.collector w.logger.isSome = .ok c →
    Adopts s c w v → Reloaded env w v

section

variable {w v : Watch} {e : Journal.Event} {env : Settings.Environment} {f : Failure}

theorem heard_of_logger (logged : w.logger.isSome = true) (e : Journal.Event) :
    w.heard e = [e] :=
  if_pos logged

theorem tell_of_none (none : w.logger = none) : w.tell = w := by
  rw [tell, none]

theorem log_of_none (none : w.logger = none) (e : Journal.Event) : w.log e = w := by
  have quiet : w.world.timetable.traffic.log ⟨0, w.logger.isSome⟩ e =
      w.world.timetable.traffic := by
    rw [none]
    rfl
  rw [log, quiet]
  exact tell_of_none none

theorem Noted.logger (noted : Noted w v) : v.logger.isSome = w.logger.isSome := by
  obtain ⟨_, _, _, _, kept, rfl⟩ := noted
  exact kept

theorem Noted.registry (noted : Noted w v) : v.registry = w.registry := by
  obtain ⟨_, _, _, _, _, rfl⟩ := noted
  rfl

theorem tell_current (w : Watch) : w.tell.Current := by
  cases logger : w.logger with
  | none =>
    rw [tell_of_none logger]
    intro logged
    rw [logger] at logged
    cases logged
  | some l =>
    rw [tell, logger]
    intro _
    rfl

theorem log_current (w : Watch) (e : Journal.Event) : (w.log e).Current :=
  tell_current _

theorem fail_current (w : Watch) (before : String) (f : Failure) : (w.fail before f).Current :=
  log_current _ _

theorem events_log (logged : w.logger.isSome = true) (e : Journal.Event) :
    (w.log e).world.events = w.world.events ++ [e] := by
  obtain ⟨l, logger⟩ := Option.isSome_iff_exists.mp logged
  simp [log, tell, logger, Traffic.log, World.events]

theorem handed_of_current (current : w.Current) (logged : w.logger.isSome = true) :
    w.handed = w.world.events := by
  rw [handed, current logged, List.take_length]

theorem handed_log (current : w.Current) (e : Journal.Event) :
    (w.log e).handed = w.handed ++ w.heard e := by
  unfold heard
  split
  · -- The logger had all events, and after this one it has all again.
    rename_i logged
    have still : (w.log e).logger.isSome = true := (noted_log w e).logger.trans logged
    rw [handed_of_current (log_current w e) still, handed_of_current current logged,
      events_log logged]
  · -- Without a logger an event is not even kept.
    rename_i unlogged
    have none : w.logger = none := by simpa using unlogged
    rw [log_of_none none, List.append_nil]

theorem fail_fails (current : w.Current) (before : String) (f : Failure) :
    Fails before f w (w.fail before f) :=
  have kept := (noted_fail w before f).keeps
  ⟨kept.settings, kept.collector, handed_log (w := w.complain _) current _⟩

theorem adopted_adopts (current : w.Current) (s : Settings) (c : Collector) :
    Adopts s c w (w.adopted s c) :=
  have kept := (noted_adopted w s c).keeps
  ⟨kept.settings, kept.collector, handed_log (w := { w with collector := c }) current _⟩

theorem Reload.reloaded (current : w.Current) (ended : Reload env w v) : Reloaded env w v := by
  cases ended with
  | @failed f read =>
    have fails := fail_fails (w := w.askedAgain) current "config reload failed: " f
    exact .failed read ⟨fails.settings, fails.collector, fails.handed⟩
  | unchanged read same =>
    exact .unchanged read same ⟨rfl, rfl, rfl⟩
  | @rejected s f text read new refused =>
    have fails := fail_fails (w := w.complain text) current "config reload rejected: " f
    exact .rejected read new refused ⟨fails.settings, fails.collector, fails.handed⟩
  | @adopted s c text read new built =>
    have adopts := adopted_adopts (w := w.complain text) current s c
    exact .adopted read new built ⟨adopts.settings, adopts.collector, adopts.handed⟩

theorem reload_current (env : Settings.Environment) (current : w.Current) :
    (w.reload env).Current := by
  have ended := reload_cases env w
  generalize w.reload env = v at ended
  cases ended with
  | failed read => exact fail_current _ _ _
  | unchanged read same => exact current
  | rejected text read new refused => exact fail_current _ _ _
  | adopted text read new built => exact log_current _ _

theorem reload_logger (env : Settings.Environment) (w : Watch) :
    (w.reload env).logger.isSome = w.logger.isSome := by
  obtain ⟨_, _, noted⟩ := reload_noted env w
  exact noted.logger

theorem reload_registry (env : Settings.Environment) (w : Watch) :
    (w.reload env).registry = w.registry := by
  obtain ⟨_, _, noted⟩ := reload_noted env w
  exact noted.registry

theorem Reloaded.of_failed (reloaded : Reloaded env w v) (read : w.reads env = .error f) :
    Fails "config reload failed: " f w v := by
  cases reloaded with
  | failed failure fails =>
    rw [read] at failure
    cases failure
    exact fails
  | unchanged other => simp [read] at other
  | rejected other => simp [read] at other
  | adopted other => simp [read] at other

theorem Reloaded.of_same (reloaded : Reloaded env w v) {s : Settings} (read : w.reads env = .ok s)
    (same : fingerprint w.settings = fingerprint s) : Idles w v := by
  cases reloaded with
  | failed other => simp [read] at other
  | unchanged _ _ idles => exact idles
  | rejected other new =>
    cases read.symm.trans other
    exact absurd same new
  | adopted other new =>
    cases read.symm.trans other
    exact absurd same new

theorem Reloaded.of_new (reloaded : Reloaded env w v) {s : Settings} {c : Collector}
    (read : w.reads env = .ok s) (new : fingerprint w.settings ≠ fingerprint s)
    (built : Collector.ofSettings s.collector w.logger.isSome = .ok c) : Adopts s c w v := by
  cases reloaded with
  | failed other => simp [read] at other
  | unchanged other same =>
    cases read.symm.trans other
    exact absurd same new
  | rejected other _ refused =>
    cases read.symm.trans other
    simp [built] at refused
  | adopted other _ also adopts =>
    cases read.symm.trans other
    cases built.symm.trans also
    exact adopts

theorem Reloaded.inUse (before : w.settings.collector.InUse w.collector)
    (reloaded : Reloaded env w v) : v.settings.collector.InUse v.collector := by
  cases reloaded with
  | failed _ fails => rwa [fails.settings, fails.collector]
  | unchanged _ _ idles => rwa [idles.settings, idles.collector]
  | rejected _ _ _ fails => rwa [fails.settings, fails.collector]
  | adopted _ _ built adopts =>
    rw [adopts.settings, adopts.collector]
    exact Collector.inUse_of_built built

theorem step_reloaded (host : Host) (asked : w.answers? = some .reload) (current : w.Current) :
    Reloaded env w (w.step host env) := by
  have reloaded := Reload.reloaded (w := { w with signals := w.signals.withoutReload }) current
    (reload_cases env _)
  rw [step_of_reload asked]
  cases reloaded with
  | failed read fails => exact .failed read ⟨fails.settings, fails.collector, fails.handed⟩
  | unchanged read same idles =>
    exact .unchanged read same ⟨idles.settings, idles.collector, idles.handed⟩
  | rejected read new refused fails =>
    exact .rejected read new refused ⟨fails.settings, fails.collector, fails.handed⟩
  | adopted read new built adopts =>
    exact .adopted read new built ⟨adopts.settings, adopts.collector, adopts.handed⟩

theorem step_registry (host : Host) (asked : w.answers? = some .reload) :
    (w.step host env).registry = w.registry := by
  rw [step_of_reload asked]
  exact reload_registry env { w with signals := w.signals.withoutReload }

theorem publish_current (current : w.Current) (text : String) : (w.publish text).Current := by
  unfold publish
  split
  · dsimp only
    split
    · exact current
    · exact fail_current _ _ _
  · dsimp only
    split <;> exact current

theorem step_current (host : Host) (env : Settings.Environment) (current : w.Current) :
    (w.step host env).Current := by
  generalize stepped : w.step host env = v
  cases stepped ▸ step_does host env w with
  | heeds | goesOn | passes | takes | stops | lies | wakes | stays => exact current
  | reloads _ _ =>
    have asked : ({ w with signals := w.signals.withoutReload } : Watch).Current := current
    have answered := reload_current env asked
    exact answered
  | scrapes _ =>
    unfold scrapeOnce
    split
    · exact fail_current _ _ _
    · exact publish_current (tell_current _) _
  | rests _ _ _ => exact tell_current _
  | finishes _ =>
    obtain ⟨_, _, _, same⟩ := finish_ends w _
    rw [same]
    intro logged
    cases logged

structure Sound (w : Watch) : Prop where
  inUse : w.settings.collector.InUse w.collector
  current : w.Current

theorem Sound.step (sound : w.Sound) (host : Host) (env : Settings.Environment) :
    (w.step host env).Sound := by
  refine ⟨?_, step_current host env sound.current⟩
  by_cases asked : w.answers? = some .reload
  · exact (step_reloaded host asked sound.current).inUse sound.inUse
  · have kept := step_keeps host env asked
    rw [kept.settings, kept.collector]
    exact sound.inUse

theorem Sound.run {es : List Event} (sound : w.Sound) (run : Run w es v) : v.Sound := by
  induction run with
  | refl => exact sound
  | move before move ih =>
    cases move with
    | step host _ => exact ih.step host _
    | raise _ r => exact ⟨ih.inUse, ih.current⟩
    | change _ tree output freed => exact ⟨ih.inUse, ih.current⟩

/-- A watch is made of settings, a collector that was built from them, and a logger, if they name
one, that has been told nothing. -/
structure Made (world : World) (given : Settings) (chosen : Options) (w : Watch) : Prop where
  settings : w.settings = given
  options : w.options = chosen
  built : Collector.ofSettings given.collector w.logger.isSome = .ok w.collector
  logger : w.logger.isSome = given.logging.jsonlEnabled
  signals : w.signals = .quiet
  phase : w.phase = .check
  told : w.told = 0
  timetable : w.world.timetable = world.timetable

variable {world after : World} {epochMs : Nat} {given : Settings} {chosen : Options}

theorem made_of_init (made : init world epochMs given chosen = (after, .ok w)) :
    Made world given chosen w := by
  unfold init at made
  split at made
  rename_i begun logger opened
  have begins : logger.isSome = given.logging.jsonlEnabled ∧
      begun.timetable = world.timetable := by
    split at opened
    · rename_i enabled
      cases opened
      exact ⟨enabled.symm, rfl⟩
    · rename_i disabled
      cases opened
      exact ⟨((Bool.not_eq_true _).mp disabled).symm, rfl⟩
  split at made
  · cases made
  · rename_i c built
    cases made
    exact ⟨rfl, rfl, built, begins.1, rfl, rfl, rfl, begins.2⟩

theorem sound_begin (made : Made world given chosen w) : w.begin.Sound := by
  have kept := (noted_log w (.collectorStarted version (fingerprint w.settings))).keeps
  refine ⟨?_, log_current _ _⟩
  rw [begin, kept.settings, kept.collector, made.settings]
  exact Collector.inUse_of_built made.built

/-- Whatever becomes of a watch and of the files around it, its collector does what its settings
say. A reload that fails changes neither and logs one error, one that succeeds changes both, and
none touches the registry. -/
theorem reloads_of_run {es : List Event} (made : init world epochMs given chosen = (after, .ok w))
    (run : Run w.begin es v) :
    v.settings.collector.InUse v.collector ∧
    (∀ env, Reloaded env v (v.reload env) ∧ (v.reload env).registry = v.registry) ∧
    ∀ host env, v.answers? = some .reload →
      Reloaded env v (v.step host env) ∧ (v.step host env).registry = v.registry := by
  have sound := (sound_begin (made_of_init made)).run run
  refine ⟨sound.inUse, ?_, ?_⟩
  · intro env
    exact ⟨(reload_cases env v).reloaded sound.current, reload_registry env v⟩
  · intro host env asked
    exact ⟨step_reloaded host asked sound.current, step_registry host asked⟩

/-- A watch that is about to answer a request to reload, with the files as they are by then. -/
def askedWith (w : Watch) (tree : FileTree) : Watch :=
  { w with
    signals := w.signals.raise .reload
    phase := .reload
    world := w.world.changed tree w.world.output fun _ => false }

theorem steady_askedWith (place : w.phase = .check) (going : w.signals.shutdown = false)
    (host : Host) (env : Settings.Environment) (found : Settings.Found) (tree : FileTree) :
    Steady env found w [.raised .reload, .stepped none, .changed] (w.askedWith tree) := by
  have asked : Move env w (.raised .reload) (w.raise .reload) := .raise w .reload
  have answers : (w.raise .reload).answers? = none := by
    simp [answers?, raise, place, Signals.raise, going]
  have checked : (w.raise .reload).step host env = { w.raise .reload with phase := .reload } := by
    simp [Watch.step, raise, place, Signals.raise, going]
  have step : Move env (w.raise .reload) (.stepped none)
      { w.raise .reload with phase := .reload } := by
    rw [← answers, ← checked]
    exact .step host _
  have change : Move env { w.raise .reload with phase := .reload } .changed (w.askedWith tree) :=
    .change _ tree w.world.output fun _ => false
  have first : Steady env found w [.raised .reload] (w.raise .reload) := by
    refine (Steady.refl w).move asked ?_
    intro stepped
    cases stepped
  have second : Steady env found w [.raised .reload, .stepped none]
      { w.raise .reload with phase := .reload } := by
    refine first.move step ?_
    intro stepped
    cases stepped
  refine second.move change ?_
  intro stepped
  cases stepped

theorem init_ok [Patterns]
    (usable : ∀ logged, ∃ c, Collector.ofSettings given.collector logged = .ok c)
    (world : World) (epochMs : Nat) (chosen : Options) :
    ∃ after w, init world epochMs given chosen = (after, .ok w) := by
  unfold init
  split
  rename_i begun logger opened
  obtain ⟨c, built⟩ := usable logger.isSome
  rw [built]
  exact ⟨_, _, rfl⟩

theorem reaches_reload (made : Made world given chosen w) (host : Host)
    (env : Settings.Environment) (found : Settings.Found) (tree : FileTree) :
    Steady env found w.begin [.raised .reload, .stepped none, .changed]
        (w.begin.askedWith tree) ∧
      (w.begin.askedWith tree).settings = given ∧
      (w.begin.askedWith tree).logger.isSome = given.logging.jsonlEnabled := by
  have noted := noted_log w (.collectorStarted version (fingerprint w.settings))
  have place : w.begin.phase = .check ∧ w.begin.signals = .quiet := by
    obtain ⟨_, _, _, _, _, same⟩ := noted
    rw [begin, same]
    exact ⟨made.phase, made.signals⟩
  refine ⟨steady_askedWith place.1 ?_ host env found tree, ?_, ?_⟩
  · rw [place.2]
    rfl
  · exact noted.keeps.settings.trans made.settings
  · exact noted.logger.trans made.logger

end

end Watch

/-- Files with one file, and nothing else. -/
def treeWithFile (name contents : Bytes) : FileTree where
  nodes := #[.dir 0 [(name, 1)] false, .file contents]
  current := 0

theorem lookup_treeWithFile (contents : Bytes) :
    (treeWithFile [99] contents).lookup ⟨[99]⟩ = some (.ok contents) := by
  cbv

/-- Settings without patterns. -/
def settingsOfFile (name : Bytes) (scrapeIntervalMs : Nat) : Settings where
  collector := { CollectorSettings.usual with mountPointsExclude := "", fsTypesExclude := "" }
  paths := { PathSettings.usual with configFile := ⟨name⟩ }
  logging := .usual
  watch := ⟨scrapeIntervalMs, none⟩

def documentOf (scrapeIntervalMs : String) : Bytes :=
  Text.utf8 ("[collector]\nmount_points_exclude = ''\nfs_types_exclude = ''\n" ++
    "[daemon]\nscrape_interval_ms = " ++ scrapeIntervalMs ++ "\n").toList

namespace Watch

theorem reaches_reload_of_file (name contents : Bytes) (interval : Nat) : ∃ after w v,
    init (.ofTree (treeWithFile name [])) 0 (settingsOfFile name interval) ⟨none, none, none⟩ =
      (after, .ok w) ∧
    Run w.begin [.raised .reload, .stepped none, .changed] v ∧
    v.settings = settingsOfFile name interval ∧ v.world.tree = treeWithFile name contents ∧
    v.answers? = some .reload ∧ v.logger.isSome = true := by
  have usable : ∀ logged, ∃ c,
      Collector.ofSettings (settingsOfFile name interval).collector logged = .ok c :=
    fun _ => ⟨_, rfl⟩
  obtain ⟨after, w, made⟩ := init_ok usable (.ofTree (treeWithFile name [])) 0 ⟨none, none, none⟩
  obtain ⟨run, settings, logger⟩ := reaches_reload (made_of_init made) emptyHost (fun _ => none)
    none (treeWithFile name contents)
  exact ⟨after, w, _, made, run.run, settings, rfl, rfl, logger⟩

theorem reads_of_file {v : Watch} {name contents : Bytes} {interval : Nat}
    {env : Settings.Environment} (settings : v.settings = settingsOfFile name interval)
    (files : v.world.tree = treeWithFile name contents)
    (found : (treeWithFile name contents).lookup ⟨name⟩ = some (.ok contents)) :
    v.reads env = Settings.load (some ⟨name⟩) (fun _ => some (.ok contents)) env := by
  rw [reads, settings, files]
  exact Settings.load_of_found found

theorem reloads_of_run_when_refused : ∃ after w v,
    init (.ofTree (treeWithFile [99] [])) 0 (settingsOfFile [99] 1) ⟨none, none, none⟩ =
      (after, .ok w) ∧
    Run w.begin [.raised .reload, .stepped none, .changed] v ∧ v.answers? = some .reload ∧
    (v.step emptyHost fun _ => none).settings = settingsOfFile [99] 1 ∧
    (v.step emptyHost fun _ => none).handed = v.handed ++ [.error "MG-1001"
      ("config reload failed: [MG-1001] invalid configuration: " ++
        "daemon.scrape_interval_ms must be > 0")] := by
  obtain ⟨after, w, v, made, run, settings, files, asked, logger⟩ :=
    reaches_reload_of_file [99] (documentOf "0") 1
  have read : v.reads (fun _ => none) =
      .error (.invalidConfig "daemon.scrape_interval_ms must be > 0") := by
    rw [reads_of_file settings files (lookup_treeWithFile _)]
    decide +kernel
  obtain ⟨-, -, steps⟩ := reloads_of_run made run
  obtain ⟨reloaded, -⟩ := steps emptyHost (fun _ => none) asked
  have fails := reloaded.of_failed read
  have handed := fails.handed
  rw [heard_of_logger logger] at handed
  exact ⟨after, w, v, made, run, asked, fails.settings.trans settings, handed⟩

end Watch

end MountProbe
