import MountProbe.Command.Run
import MountProbe.Proofs.Watch.Steady

/-! A watch that a command has started, while its file and environment stay as they are. Reloads
change nothing and log nothing if the file was there at the start and the command line asked for no
more than it says. Without the file every reload fails; what the command line added is lost with the
first one. -/
namespace MountProbe.Command

/-- The file that the settings come from. -/
def configFile (inv : Invocation) : Path :=
  inv.config.getD PathSettings.usual.configFile

def asSaid (inv : Invocation) (s : Settings) : Settings :=
  { s with logging := { s.logging with verbose := s.logging.verbose || inv.verbose } }

theorem asSaid_of_said {inv : Invocation} {s : Settings}
    (said : inv.verbose = true → s.logging.verbose = true) : asSaid inv s = s := by
  obtain ⟨collector, paths, logging, watch⟩ := s
  obtain ⟨enabled, verbose, size, files⟩ := logging
  cases verbose with
  | true => rfl
  | false =>
    have quiet : inv.verbose = false := by
      cases loud : inv.verbose with
      | false => rfl
      | true => cases said loud
    rw [asSaid, quiet]
    rfl

/-- What a command finds as the file of its settings. -/
def fileFound (inv : Invocation) (world : World) : Settings.Found :=
  world.tree.lookup (configFile inv)

section

variable {inv : Invocation} {s : Setting} {request : WatchRequest} {world : World} {w v : Watch}
  {quiet : Bool} {es : List Watch.Event} {loaded : Settings}

/-- How a watch begins: with the settings that were loaded and what the command line adds. -/
structure Started (inv : Invocation) (s : Setting) (world : World) (loaded : Settings)
    (w : Watch) : Prop where
  loads : Settings.load inv.config world.tree.lookup s.env = .ok loaded
  settings : w.settings = asSaid inv loaded
  built : Collector.ofSettings loaded.collector w.logger.isSome = .ok w.collector
  current : w.Current

theorem load_of_settingsOf (configured : settingsOf inv s world = .ok loaded) :
    Settings.load inv.config world.tree.lookup s.env = .ok loaded := by
  unfold settingsOf at configured
  split at configured
  · rename_i loads
    cases configured
    exact loads
  · cases configured

theorem started_of_watching (started : startWatch inv s request world = .watching w quiet) :
    ∃ loaded, Started inv s world loaded w := by
  unfold startWatch at started
  split at started
  · cases started
  · rename_i loaded configured
    dsimp only at started
    split at started
    · cases started
    · rename_i after watch made
      cases started
      have made := Watch.made_of_init made
      have begun := Watch.noted_log watch
        (.collectorStarted Watch.version (Watch.fingerprint watch.settings))
      refine ⟨loaded, load_of_settingsOf configured, begun.keeps.settings.trans made.settings, ?_,
        Watch.log_current _ _⟩
      rw [Watch.begin, begun.logger, begun.keeps.collector]
      exact made.built

theorem Started.named (started : Started inv s world loaded w) :
    w.settings.paths.configFile = configFile inv := by
  have named := Settings.configFile_of_load started.loads
  rw [started.settings]
  exact named

def readAgain (inv : Invocation) (s : Setting) (world : World) : Except Failure Settings :=
  Settings.load (some (configFile inv)) (fun _ => fileFound inv world) s.env

theorem Started.readAgain_of_there (started : Started inv s world loaded w)
    (there : (fileFound inv world).isSome = true) :
    readAgain inv s world = .ok loaded := by
  obtain ⟨contents, there⟩ := Option.isSome_iff_exists.mp there
  rw [readAgain, there]
  exact (Settings.load_of_there there).symm.trans started.loads

theorem readAgain_of_missing (missing : fileFound inv world = none) :
    readAgain inv s world = .error (.missingConfig (configFile inv)) := by
  rw [readAgain, missing]
  rfl

theorem Started.held (started : Started inv s world loaded w)
    (run : Watch.Steady s.env (fileFound inv world) w es v) :
    Watch.Held (readAgain inv s world) w v := by
  refine run.held started.current started.named ?_
  intro t loads
  have again : readAgain inv s world = .ok t := loads
  cases there : fileFound inv world with
  | none =>
    -- A reload asks for the file, so without one it has no settings to build from.
    rw [readAgain_of_missing there] at again
    cases again
  | some contents =>
    rw [started.readAgain_of_there (by rw [there]; rfl)] at again
    cases again
    exact started.built

theorem Started.config_of_missing (started : Started inv s world loaded w)
    (missing : fileFound inv world = none) : inv.config = none := by
  cases asked : inv.config with
  | none => rfl
  | some p =>
    have named : configFile inv = p := by
      rw [configFile, asked]
      rfl
    have loads := started.loads
    rw [fileFound, named] at missing
    rw [asked, Settings.load_of_found missing, Settings.load_of_missing] at loads
    cases loads

theorem Started.steady_of_same (started : Started inv s world loaded w)
    (run : Watch.Steady s.env (fileFound inv world) w es v)
    (there : (fileFound inv world).isSome = true)
    (same : Watch.fingerprint w.settings = Watch.fingerprint loaded) :
    v.settings = w.settings ∧ v.Answers s.env (fileFound inv world) Watch.Idles := by
  have held := started.held run
  have again := started.readAgain_of_there there
  have kept : v.settings = w.settings := by
    rcases held.settings with kept | ⟨read, new⟩
    · exact kept
    · rw [again] at read
      rw [← Except.ok.inj read] at new
      exact absurd same new
  refine ⟨kept, ?_⟩
  intro host asked finds
  have reads := (held.reads started.named finds).trans again
  apply (Watch.step_reloaded host asked held.current).of_same reads
  rw [kept, same]

theorem Started.steady_of_missing (started : Started inv s world loaded w)
    (run : Watch.Steady s.env (fileFound inv world) w es v)
    (missing : fileFound inv world = none) :
    v.settings = w.settings ∧ v.Answers s.env (fileFound inv world)
      (Watch.Fails "config reload failed: " (.missingConfig (configFile inv))) := by
  have held := started.held run
  have again := readAgain_of_missing (s := s) missing
  have kept : v.settings = w.settings := by
    rcases held.settings with same | ⟨read, -⟩
    · exact same
    · rw [again] at read
      cases read
  refine ⟨kept, ?_⟩
  intro host asked finds
  have reads := (held.reads started.named finds).trans again
  exact (Watch.step_reloaded host asked held.current).of_failed reads

/-- The first reload takes back what the command line added. -/
theorem Started.steady_of_added (started : Started inv s world loaded w)
    (run : Watch.Steady s.env (fileFound inv world) w es v)
    (there : (fileFound inv world).isSome = true)
    (added : Watch.fingerprint w.settings ≠ Watch.fingerprint loaded) :
    (v.settings = w.settings ∧ v.Answers s.env (fileFound inv world)
      (Watch.Adopts loaded w.collector)) ∨
    (v.settings = loaded ∧ v.Answers s.env (fileFound inv world) Watch.Idles) := by
  have held := started.held run
  have again := started.readAgain_of_there there
  rcases held.settings with same | ⟨read, -⟩
  · refine .inl ⟨same, ?_⟩
    intro host asked finds
    have reads := (held.reads started.named finds).trans again
    have built : Collector.ofSettings loaded.collector v.logger.isSome = .ok w.collector := by
      rw [held.logger (Watch.isOver_of_reload asked)]
      exact started.built
    refine (Watch.step_reloaded host asked held.current).of_new reads ?_ built
    rw [same]
    exact added
  · have taken : v.settings = loaded := by
      rw [again] at read
      exact (Except.ok.inj read).symm
    refine .inr ⟨taken, ?_⟩
    intro host asked finds
    have reads := (held.reads started.named finds).trans again
    apply (Watch.step_reloaded host asked held.current).of_same reads
    rw [taken]

/-- What reloads do to a watch that a command has started, while its file and environment stay. -/
theorem reloads_while_steady (started : startWatch inv s request world = .watching w quiet)
    (run : Watch.Steady s.env (fileFound inv world) w es v) :
    ∃ loaded, Settings.load inv.config world.tree.lookup s.env = .ok loaded ∧
      ((inv.verbose = true → loaded.logging.verbose = true) → w.settings = loaded) ∧
      v.collector = w.collector ∧
      ((fileFound inv world).isSome = true →
        Watch.fingerprint w.settings = Watch.fingerprint loaded →
        v.settings = w.settings ∧ v.Answers s.env (fileFound inv world) Watch.Idles) ∧
      ((fileFound inv world).isSome = true →
        Watch.fingerprint w.settings ≠ Watch.fingerprint loaded →
        (v.settings = w.settings ∧
          v.Answers s.env (fileFound inv world) (Watch.Adopts loaded w.collector)) ∨
        (v.settings = loaded ∧ v.Answers s.env (fileFound inv world) Watch.Idles)) ∧
      (fileFound inv world = none → inv.config = none ∧ v.settings = w.settings ∧
        v.Answers s.env none
          (Watch.Fails "config reload failed: " (.missingConfig (configFile inv)))) := by
  obtain ⟨loaded, begun⟩ := started_of_watching started
  refine ⟨loaded, begun.loads, ?_, (begun.held run).collector, ?_, ?_, ?_⟩
  · intro said
    exact begun.settings.trans (asSaid_of_said said)
  · intro there same
    exact begun.steady_of_same run there same
  · intro there added
    exact begun.steady_of_added run there added
  · intro missing
    obtain ⟨kept, answers⟩ := begun.steady_of_missing run missing
    rw [missing] at answers
    exact ⟨begun.config_of_missing missing, kept, answers⟩

theorem startWatch_of_load
    (loads : Settings.load inv.config world.tree.lookup s.env = .ok loaded)
    (request : WatchRequest) : ∃ watch, startWatch inv s request world =
        .watching watch.begin inv.quiet ∧
      Watch.Made world (asSaid inv loaded) ⟨request.intervalMs, request.output, request.count⟩
        watch := by
  have configured : settingsOf inv s world = .ok loaded := by
    rw [settingsOf, loads]
  have usable : ∀ logged, ∃ c,
      Collector.ofSettings (asSaid inv loaded).collector logged = .ok c := by
    intro logged
    have built := Settings.collector_of_load loads logged
    exact built
  obtain ⟨after, watch, made⟩ := Watch.init_ok usable world s.epochMs
    ⟨request.intervalMs, request.output, request.count⟩
  refine ⟨watch, ?_, Watch.made_of_init made⟩
  unfold asSaid at made
  rw [startWatch, configured]
  dsimp only
  rw [made]

end

def bareSetting : Setting where
  terminal := ⟨false, false⟩
  env := fun _ => none
  system := fun _ => .ok ⟨512, 8, 4, 4, 9, 3⟩
  hangs := fun _ => false
  completions := fun _ => ""
  epochMs := 0

def watchOf (config : Option Path) : Invocation :=
  ⟨config, false, false, false, false, .watch ⟨none, none, none⟩⟩

theorem reloads_while_steady_with_a_file : ∃ w v : Watch,
    startWatch (watchOf (some ⟨[99]⟩)) bareSetting ⟨none, none, none⟩
      (.ofTree (treeWithFile [99] (documentOf "2"))) = .watching w false ∧
    Watch.Steady bareSetting.env (some (.ok (documentOf "2"))) w
      [.raised .reload, .stepped none, .changed] v ∧
    v.answers? = some .reload ∧ v.logger.isSome = true ∧
    v.Idles (v.step Watch.emptyHost bareSetting.env) := by
  have found : fileFound (watchOf (some ⟨[99]⟩))
      (.ofTree (treeWithFile [99] (documentOf "2"))) = some (.ok (documentOf "2")) :=
    lookup_treeWithFile _
  have loads : Settings.load (watchOf (some ⟨[99]⟩)).config
      (World.ofTree (treeWithFile [99] (documentOf "2"))).tree.lookup bareSetting.env =
        .ok (settingsOfFile [99] 2) := by
    have read : Settings.load (some ⟨[99]⟩) (fun _ => some (.ok (documentOf "2")))
        (fun _ => none) = .ok (settingsOfFile [99] 2) := by
      decide +kernel
    exact (Settings.load_of_found found).trans read
  obtain ⟨watch, started, made⟩ := startWatch_of_load loads ⟨none, none, none⟩
  obtain ⟨run, settings, logger⟩ := Watch.reaches_reload made Watch.emptyHost bareSetting.env
    (some (.ok (documentOf "2"))) (treeWithFile [99] (documentOf "2"))
  have steady := run
  rw [← found] at steady
  obtain ⟨loaded, also, said, -, unchanged, -⟩ := reloads_while_steady started steady
  have begins : watch.begin.settings = loaded := by
    apply said
    intro asked
    cases asked
  obtain ⟨-, answers⟩ := unchanged (by rw [found]; rfl) (by rw [begins])
  have finds : (watch.begin.askedWith (treeWithFile [99] (documentOf "2"))).finds
      (fileFound (watchOf (some ⟨[99]⟩)) (.ofTree (treeWithFile [99] (documentOf "2")))) := by
    rw [Watch.finds, settings]
    rfl
  exact ⟨_, _, started, run, rfl, logger, answers Watch.emptyHost rfl finds⟩

/-- Reloads need not leave the log alone, though nothing has changed. -/
theorem reload_fails_without_a_file :
    ¬ ∀ (inv : Invocation) (s : Setting) (request : WatchRequest) (world : World) (w v : Watch)
      (quiet : Bool) (es : List Watch.Event) (host : Host),
      startWatch inv s request world = .watching w quiet →
      Watch.Steady s.env (fileFound inv world) w es v → v.answers? = some .reload →
      v.finds (fileFound inv world) → v.Idles (v.step host s.env) := by
  intro claim
  have lookup : (treeWithFile [99] []).lookup PathSettings.usual.configFile = none := by
    cbv
  have missing : fileFound (watchOf none) (.ofTree (treeWithFile [99] [])) = none := lookup
  have loads : Settings.load (watchOf none).config
      (World.ofTree (treeWithFile [99] [])).tree.lookup bareSetting.env = .ok Settings.usual := by
    have same : Settings.load none (treeWithFile [99] []).lookup (fun _ => none) =
        Settings.load none (fun _ => none) (fun _ => none) := by
      simp only [Settings.load, Option.getD_none, lookup]
    exact same.trans Settings.load_usual
  obtain ⟨watch, started, made⟩ := startWatch_of_load loads ⟨none, none, none⟩
  obtain ⟨run, settings, logger⟩ := Watch.reaches_reload made Watch.emptyHost bareSetting.env
    (fileFound (watchOf none) (.ofTree (treeWithFile [99] []))) (treeWithFile [99] [])
  have finds : (watch.begin.askedWith (treeWithFile [99] [])).finds
      (fileFound (watchOf none) (.ofTree (treeWithFile [99] []))) := by
    rw [Watch.finds, settings]
    rfl
  have idles := claim _ _ _ _ _ _ _ _ Watch.emptyHost started run rfl finds
  obtain ⟨_, begun⟩ := started_of_watching started
  obtain ⟨-, answers⟩ := begun.steady_of_missing run missing
  have fails := (answers Watch.emptyHost rfl finds).handed
  rw [idles.handed, Watch.heard_of_logger logger] at fails
  exact absurd (congrArg List.length fails) (by simp)

end MountProbe.Command
