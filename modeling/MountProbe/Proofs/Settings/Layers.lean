import MountProbe.Proofs.Settings.Environment
import MountProbe.Proofs.Settings.Slash
import MountProbe.Proofs.Settings.Valid

/-! Where each setting comes from: from its own variable, else from the document, else it keeps its
default. No variable and no line of the document reaches another setting, but for the exclude
patterns that are dropped for an include pattern. -/
namespace MountProbe

open Toml (Value Fault Entries)

namespace Settings

variable {env : Environment} {es : Entries}

section

variable {α : Type} {gives : String → Prop} {means : String → α → Prop}
  {entry : Option (Except Fault α)} {usual : α}

/-- A setting in layers: what its own variable means, else what the document has, else the
default. -/
inductive Comes (gives : String → Prop) (means : String → α → Prop)
    (entry : Option (Except Fault α)) (usual : α) : α → Prop where
  | own {raw : String} {a : α} : gives raw → means raw a → Comes gives means entry usual a
  | document {a : α} : (∀ raw, ¬ gives raw) → entry = some (.ok a) →
    Comes gives means entry usual a
  | default : (∀ raw, ¬ gives raw) → entry = none → Comes gives means entry usual usual

/-- The layers leave one value, and it is this one. -/
def Decides (gives : String → Prop) (means : String → α → Prop)
    (entry : Option (Except Fault α)) (usual a : α) : Prop :=
  ∀ b, Comes gives means entry usual b ↔ b = a

theorem decides_of_replaces {below a : α}
    (one_text : ∀ raw raw', gives raw → gives raw' → raw = raw')
    (one_value : ∀ raw b c, means raw b → means raw c → b = c)
    (document : entry.getD (.ok usual) = .ok below)
    (replaces : Replaces gives means below a) : Decides gives means entry usual a := by
  intro b
  constructor
  · intro comes
    cases comes with
    | own given meant =>
      rcases replaces with ⟨raw, given', meant'⟩ | ⟨unset, -⟩
      · cases one_text _ _ given given'
        exact one_value _ _ _ meant meant'
      · exact absurd given (unset _)
    | document unset there =>
      rcases replaces with ⟨raw, given, -⟩ | ⟨-, rfl⟩
      · exact absurd given (unset raw)
      · cases there
        exact Except.ok.inj document
    | default unset missing =>
      rcases replaces with ⟨raw, given, -⟩ | ⟨-, rfl⟩
      · exact absurd given (unset raw)
      · cases missing
        exact Except.ok.inj document
  · rintro rfl
    rcases replaces with ⟨raw, given, meant⟩ | ⟨unset, rfl⟩
    · exact .own given meant
    · cases entry with
      | none =>
        cases document
        exact .default unset rfl
      | some read => exact .document unset (congrArg some document)

/-- A setting without a variable of its own. -/
def Unnamed (_ : String) : Prop :=
  False

theorem replaces_of_unnamed (a : α) : Replaces Unnamed means a a :=
  .inr ⟨fun _ => id, rfl⟩

end

/-! What the document has. -/

def collectorNames : List String :=
  ["mount_timeout_ms", "stat_workers", "mount_points_exclude", "mount_points_include",
    "fs_types_exclude", "fs_types_include"]

def pathNames : List String :=
  ["config_file", "proc_path", "rootfs_path", "jsonl_log"]

def loggingNames : List String :=
  ["jsonl_enabled", "verbose", "max_size_bytes", "max_rotated_files"]

def watchNames : List String :=
  ["scrape_interval_ms", "output_file"]

/-- What a document has under the name of a setting, in the group with the names. -/
def entry {α : Type} (es : Entries) (heading : String) (names : List String)
    (read : Value → Except Fault α) (name : String) : Option (Except Fault α) :=
  match es.get? heading with
  | none => none
  | some v =>
    match group names v with
    | .ok inner => (inner.get? name).map read
    | .error fault => some (.error fault)

theorem setting_eq {α : Type} (read : Value → Except Fault α) (es : Entries) (name : String)
    (usual : α) : setting read es name usual = ((es.get? name).map read).getD (.ok usual) := by
  unfold setting
  cases es.get? name <;> rfl

def Has {α : Type} (entry : Option (Except Fault α)) (usual a : α) : Prop :=
  entry.getD (.ok usual) = .ok a

theorem has_of_missing {α : Type} {heading : String} (missing : es.get? heading = none)
    (names : List String) (read : Value → Except Fault α) (name : String) (usual : α) :
    Has (entry es heading names read name) usual usual := by
  simp only [Has, entry, missing, Option.getD_none]

theorem has_of_group {α : Type} {heading : String} {names : List String} {v : Value}
    {inner : Entries} {read : Value → Except Fault α} {name : String} {usual a : α}
    (there : es.get? heading = some v) (grouped : group names v = .ok inner)
    (given : setting read inner name usual = .ok a) :
    Has (entry es heading names read name) usual a := by
  simp only [Has, entry, there, grouped, ← setting_eq, given]

theorem group_cases {γ : Type} {readGroup : Value → Except Fault γ} {heading : String}
    {usual c : γ} (given : setting readGroup es heading usual = .ok c) :
    (es.get? heading = none ∧ c = usual) ∨ ∃ v, es.get? heading = some v ∧ readGroup v = .ok c := by
  unfold setting at given
  cases there : es.get? heading with
  | none =>
    simp only [there] at given
    exact .inl ⟨rfl, (Except.ok.inj given).symm⟩
  | some v =>
    simp only [there] at given
    exact .inr ⟨v, rfl, given⟩

def wholeEntry (es : Entries) (name : String) : Option (Except Fault Nat) :=
  entry es "collector" collectorNames (wholeUpTo Text.maxWord64) name

def patternEntry (es : Entries) (name : String) : Option (Except Fault String) :=
  entry es "collector" collectorNames textOf name

def pathEntry (es : Entries) (name : String) : Option (Except Fault Path) :=
  entry es "paths" pathNames pathOf name

def truthEntry (es : Entries) (name : String) : Option (Except Fault Bool) :=
  entry es "logging" loggingNames truthOf name

def sizeEntry (es : Entries) (limit : Nat) (name : String) : Option (Except Fault Nat) :=
  entry es "logging" loggingNames (wholeUpTo limit) name

def intervalEntry (es : Entries) : Option (Except Fault Nat) :=
  entry es "daemon" watchNames (wholeUpTo Text.maxWord64) "scrape_interval_ms"

def outputEntry (es : Entries) : Option (Except Fault (Option Path)) :=
  entry es "daemon" watchNames (fun v => (pathOf v).map some) "output_file"

structure CollectorIn (es : Entries) (c : CollectorSettings) : Prop where
  mountTimeoutMs : Has (wholeEntry es "mount_timeout_ms") 5000 c.mountTimeoutMs
  statWorkers : Has (wholeEntry es "stat_workers") 4 c.statWorkers
  mountPointsExclude : Has (patternEntry es "mount_points_exclude")
    CollectorSettings.usualMountPointsExclude c.mountPointsExclude
  mountPointsInclude : Has (patternEntry es "mount_points_include") "" c.mountPointsInclude
  fsTypesExclude : Has (patternEntry es "fs_types_exclude")
    CollectorSettings.usualFsTypesExclude c.fsTypesExclude
  fsTypesInclude : Has (patternEntry es "fs_types_include") "" c.fsTypesInclude

theorem collectorIn_of_setting {c : CollectorSettings}
    (given : setting readCollector es "collector" .usual = .ok c) : CollectorIn es c := by
  rcases group_cases given with ⟨missing, rfl⟩ | ⟨v, there, read⟩
  · constructor <;> exact has_of_missing missing _ _ _ _
  · unfold readCollector at read
    simp only [bind_eq_ok] at read
    obtain ⟨inner, grouped, _, timeout, _, workers, _, mountsOut, _, mountsIn, _, typesOut, _,
      typesIn, whole⟩ := read
    cases whole
    constructor
    · exact has_of_group there grouped timeout
    · exact has_of_group there grouped workers
    · exact has_of_group there grouped mountsOut
    · exact has_of_group there grouped mountsIn
    · exact has_of_group there grouped typesOut
    · exact has_of_group there grouped typesIn

structure PathsIn (es : Entries) (p : PathSettings) : Prop where
  procPath : Has (pathEntry es "proc_path") (.ofString "/proc") p.procPath
  rootfsPath : Has (pathEntry es "rootfs_path") (.ofString "/") p.rootfsPath
  jsonlLog : Has (pathEntry es "jsonl_log") (.ofString "/var/lib/mountguard/activity.jsonl")
    p.jsonlLog

theorem pathsIn_of_setting {p : PathSettings}
    (given : setting readPaths es "paths" .usual = .ok p) : PathsIn es p := by
  rcases group_cases given with ⟨missing, rfl⟩ | ⟨v, there, read⟩
  · constructor <;> exact has_of_missing missing _ _ _ _
  · unfold readPaths at read
    simp only [bind_eq_ok] at read
    obtain ⟨inner, grouped, _, -, _, proc, _, rootfs, _, log, whole⟩ := read
    cases whole
    constructor
    · exact has_of_group there grouped proc
    · exact has_of_group there grouped rootfs
    · exact has_of_group there grouped log

structure LoggingIn (es : Entries) (l : LoggingSettings) : Prop where
  jsonlEnabled : Has (truthEntry es "jsonl_enabled") true l.jsonlEnabled
  verbose : Has (truthEntry es "verbose") false l.verbose
  maxSizeBytes : Has (sizeEntry es Text.maxWord64 "max_size_bytes") 33554432 l.maxSizeBytes
  maxRotatedFiles : Has (sizeEntry es Text.maxWord32 "max_rotated_files") 5 l.maxRotatedFiles

theorem loggingIn_of_setting {l : LoggingSettings}
    (given : setting readLogging es "logging" .usual = .ok l) : LoggingIn es l := by
  rcases group_cases given with ⟨missing, rfl⟩ | ⟨v, there, read⟩
  · constructor <;> exact has_of_missing missing _ _ _ _
  · unfold readLogging at read
    simp only [bind_eq_ok] at read
    obtain ⟨inner, grouped, _, enabled, _, verbose, _, size, _, files, whole⟩ := read
    cases whole
    constructor
    · exact has_of_group there grouped enabled
    · exact has_of_group there grouped verbose
    · exact has_of_group there grouped size
    · exact has_of_group there grouped files

structure WatchIn (es : Entries) (w : WatchSettings) : Prop where
  scrapeIntervalMs : Has (intervalEntry es) 15000 w.scrapeIntervalMs
  outputFile : Has (outputEntry es) none w.outputFile

theorem watchIn_of_setting {w : WatchSettings}
    (given : setting readWatch es "daemon" .usual = .ok w) : WatchIn es w := by
  rcases group_cases given with ⟨missing, rfl⟩ | ⟨v, there, read⟩
  · constructor <;> exact has_of_missing missing _ _ _ _
  · unfold readWatch at read
    simp only [bind_eq_ok] at read
    obtain ⟨inner, grouped, _, interval, _, output, whole⟩ := read
    cases whole
    constructor
    · exact has_of_group there grouped interval
    · exact has_of_group there grouped output

/-- What follows from settings that have been chosen: a usual exclude pattern gives way, and a slash
is left out. -/
def finished (s : Settings) : Settings :=
  normalized { s with collector := withoutUsualExcludes s.collector }

/-- An exclude pattern in force: the usual one gives way to an include pattern. -/
def excludeInForce (usual chosen includeOnly : String) : String :=
  if includeOnly ≠ "" ∧ chosen = usual then "" else chosen

theorem withoutUsualExcludes_eq (c : CollectorSettings) : withoutUsualExcludes c =
    { c with
      mountPointsExclude := excludeInForce CollectorSettings.usualMountPointsExclude
        c.mountPointsExclude c.mountPointsInclude
      fsTypesExclude := excludeInForce CollectorSettings.usualFsTypesExclude
        c.fsTypesExclude c.fsTypesInclude } := by
  unfold withoutUsualExcludes excludeInForce
  simp only [String.isEmpty_iff]
  by_cases mountPoints : c.mountPointsInclude ≠ "" ∧
      c.mountPointsExclude = CollectorSettings.usualMountPointsExclude
  · simp only [if_pos mountPoints]
    split <;> rfl
  · simp only [if_neg mountPoints]
    split <;> rfl

/-- A path in force: one slash at its end is left out if something stands before it. -/
def LosesSlash (chosen inForce : Path) : Prop :=
  (∃ front, chosen.EndsAfter front ∧ inForce = ⟨front⟩) ∨
    ¬ chosen.EndsInSlash ∧ inForce = chosen

theorem losesSlash_withoutSlash {p : Path} (text : p.isText = true) :
    LosesSlash p (withoutSlash p) := by
  by_cases ends : p.EndsInSlash
  · obtain ⟨front, after⟩ := ends
    exact .inl ⟨front, after, withoutSlash_of_endsAfter text after⟩
  · exact .inr ⟨ends, withoutSlash_of_other text ends⟩

/-- Each setting in force is what its own variable, its own entry in the document and its default
leave, and then what follows from the include pattern beside it or from its last slash. -/
structure InLayers (es : Entries) (env : Environment) (p : Path) (s : Settings) : Prop where
  mountTimeoutMs : Decides (env.Gives "MOUNTGUARD_MOUNT_TIMEOUT_MS") MeansWhole
    (wholeEntry es "mount_timeout_ms") 5000 s.collector.mountTimeoutMs
  statWorkers : Decides (env.Gives "MOUNTGUARD_STAT_WORKERS") MeansWhole
    (wholeEntry es "stat_workers") 4 s.collector.statWorkers
  mountPointsInclude : Decides (env.Gives "MOUNTGUARD_MOUNT_POINTS_INCLUDE") (MeansText id)
    (patternEntry es "mount_points_include") "" s.collector.mountPointsInclude
  mountPointsExclude : ∃ chosen,
    Decides (env.Gives "MOUNTGUARD_MOUNT_POINTS_EXCLUDE") (MeansText id)
      (patternEntry es "mount_points_exclude") CollectorSettings.usualMountPointsExclude chosen ∧
    s.collector.mountPointsExclude = excludeInForce CollectorSettings.usualMountPointsExclude
      chosen s.collector.mountPointsInclude
  fsTypesInclude : Decides (env.Gives "MOUNTGUARD_FS_TYPES_INCLUDE") (MeansText id)
    (patternEntry es "fs_types_include") "" s.collector.fsTypesInclude
  fsTypesExclude : ∃ chosen,
    Decides (env.Gives "MOUNTGUARD_FS_TYPES_EXCLUDE") (MeansText id)
      (patternEntry es "fs_types_exclude") CollectorSettings.usualFsTypesExclude chosen ∧
    s.collector.fsTypesExclude = excludeInForce CollectorSettings.usualFsTypesExclude
      chosen s.collector.fsTypesInclude
  configFile : s.paths.configFile = p
  procPath : ∃ chosen,
    Decides (env.Gives "MOUNTGUARD_PROC_PATH") (MeansText Path.ofString)
      (pathEntry es "proc_path") (.ofString "/proc") chosen ∧
    LosesSlash chosen s.paths.procPath
  rootfsPath : ∃ chosen,
    Decides (env.Gives "MOUNTGUARD_ROOTFS_PATH") (MeansText Path.ofString)
      (pathEntry es "rootfs_path") (.ofString "/") chosen ∧
    LosesSlash chosen s.paths.rootfsPath
  jsonlLog : ∃ chosen,
    Decides (env.Gives "MOUNTGUARD_JSONL_LOG") (MeansText Path.ofString)
      (pathEntry es "jsonl_log") (.ofString "/var/lib/mountguard/activity.jsonl") chosen ∧
    LosesSlash chosen s.paths.jsonlLog
  jsonlEnabled : Decides (env.Gives "MOUNTGUARD_JSONL_ENABLED") MeansTruth
    (truthEntry es "jsonl_enabled") true s.logging.jsonlEnabled
  verbose : Decides (env.Gives "MOUNTGUARD_LOG_VERBOSE") MeansTruth
    (truthEntry es "verbose") false s.logging.verbose
  maxSizeBytes : Decides Unnamed MeansWhole (sizeEntry es Text.maxWord64 "max_size_bytes")
    33554432 s.logging.maxSizeBytes
  maxRotatedFiles : Decides Unnamed MeansWhole
    (sizeEntry es Text.maxWord32 "max_rotated_files") 5 s.logging.maxRotatedFiles
  scrapeIntervalMs : Decides (env.Gives "MOUNTGUARD_SCRAPE_INTERVAL_MS") MeansWhole
    (intervalEntry es) 15000 s.watch.scrapeIntervalMs
  outputFile : Decides (env.Gives "MOUNTGUARD_OUTPUT_FILE")
    (MeansText fun raw => some (Path.ofString raw)) (outputEntry es) none s.watch.outputFile

theorem decides_of_gives {α : Type} {name : String} {means : String → α → Prop}
    {entry : Option (Except Fault α)} {usual below a : α}
    (one_value : ∀ raw b c, means raw b → means raw c → b = c) (has : Has entry usual below)
    (replaces : Replaces (env.Gives name) means below a) :
    Decides (env.Gives name) means entry usual a :=
  decides_of_replaces (gives_unique name) one_value has replaces

theorem decides_of_unnamed {α : Type} {means : String → α → Prop}
    {entry : Option (Except Fault α)} {usual a : α}
    (one_value : ∀ raw b c, means raw b → means raw c → b = c) (has : Has entry usual a) :
    Decides Unnamed means entry usual a :=
  decides_of_replaces (fun _ _ named => named.elim) one_value has (replaces_of_unnamed a)

theorem inLayers_of_overridden {file o : Settings} {p : Path} (read : ofDocument es = .ok file)
    (overrides : overridden env { file with paths := { file.paths with configFile := p } } =
      .ok o) :
    InLayers es env p o.finished := by
  have printable := ofDocument_arePrintable read
  have texts := (overridden_of_ok overrides).arePrintable ⟨⟨printable.paths.procPath,
    printable.paths.rootfsPath, printable.paths.jsonlLog⟩, printable.watch⟩
  unfold ofDocument at read
  simp only [bind_eq_ok] at read
  obtain ⟨_, collector, _, paths, _, logging, _, watch, whole⟩ := read
  cases whole
  have collector := collectorIn_of_setting collector
  have paths := pathsIn_of_setting paths
  have logging := loggingIn_of_setting logging
  have watch := watchIn_of_setting watch
  unfold overridden at overrides
  simp only [bind_eq_ok] at overrides
  obtain ⟨_, timeout, _, workers, _, enabled, _, verbose, _, interval, whole⟩ := overrides
  cases whole
  simp only [finished, normalized, withoutUsualExcludes_eq]
  constructor
  · exact decides_of_gives meansWhole_unique collector.mountTimeoutMs
      (timeout ▸ wholeFrom_reads env _ _).replaces
  · exact decides_of_gives meansWhole_unique collector.statWorkers
      (workers ▸ wholeFrom_reads env _ _).replaces
  · exact decides_of_gives meansText_unique collector.mountPointsInclude
      (textFrom_replaces env _ _)
  · exact ⟨_, decides_of_gives meansText_unique collector.mountPointsExclude
      (textFrom_replaces env _ _), rfl⟩
  · exact decides_of_gives meansText_unique collector.fsTypesInclude (textFrom_replaces env _ _)
  · exact ⟨_, decides_of_gives meansText_unique collector.fsTypesExclude
      (textFrom_replaces env _ _), rfl⟩
  · rfl
  · dsimp only
    exact ⟨_, decides_of_gives meansText_unique paths.procPath (pathFrom_replaces env _ _),
      losesSlash_withoutSlash texts.paths.procPath⟩
  · dsimp only
    exact ⟨_, decides_of_gives meansText_unique paths.rootfsPath (pathFrom_replaces env _ _),
      losesSlash_withoutSlash texts.paths.rootfsPath⟩
  · dsimp only
    exact ⟨_, decides_of_gives meansText_unique paths.jsonlLog (pathFrom_replaces env _ _),
      losesSlash_withoutSlash texts.paths.jsonlLog⟩
  · exact decides_of_gives meansTruth_unique logging.jsonlEnabled
      (enabled ▸ truthFrom_reads env _ _).replaces
  · exact decides_of_gives meansTruth_unique logging.verbose
      (verbose ▸ truthFrom_reads env _ _).replaces
  · exact decides_of_unnamed meansWhole_unique logging.maxSizeBytes
  · exact decides_of_unnamed meansWhole_unique logging.maxRotatedFiles
  · exact decides_of_gives meansWhole_unique watch.scrapeIntervalMs
      (interval ▸ wholeFrom_reads env _ _).replaces
  · apply decides_of_gives meansText_unique watch.outputFile
    cases given : env.text? "MOUNTGUARD_OUTPUT_FILE" with
    | none => exact .inr ⟨text?_eq_none.mp given, rfl⟩
    | some raw => exact .inl ⟨raw, text?_eq_some.mp given, rfl⟩

/-- What is found where the file of the settings is named, as a document. A file that was not asked
for may be missing. -/
inductive Documented (explicit : Bool) : Found → Entries → Prop where
  | missing : explicit = false → Documented explicit none []
  | text {text : String} {es : Entries} : Toml.read text.toList = .ok es →
    Documented explicit (some (.ok (Text.utf8 text.toList))) es

theorem base_of_documented {explicit : Bool} {found : Found} {file : Settings} (p : Path)
    (documented : Documented explicit found es) (read : ofDocument es = .ok file) :
    base explicit p found = .ok file := by
  cases documented with
  | missing allowed =>
    cases read
    simp only [base, allowed]
    rfl
  | @text text _ parsed =>
    have decoded := (Path.text?_eq_some (p := ⟨Text.utf8 text.toList⟩)).mpr rfl
    have document : (Toml.read text.toList >>= ofDocument) = .ok file :=
      bind_eq_ok.mpr ⟨es, parsed, read⟩
    simp only [base, textOfFile, decoded]
    exact bind_eq_ok.mpr ⟨text, rfl, by simp only [Settings.read, document]⟩

/-- What comes of a document and an environment. The settings in force are those before the
check. -/
structure LoadsInLayers (asked : Option Path) (find : Path → Found) (env : Environment)
    (es : Entries) : Prop where
  fails : (∃ context details, load asked find env = .error (.configParse context details)) ↔
    ∃ v ∈ readVariables, ∃ raw, v.IsBad env raw
  names : ∀ context details, load asked find env = .error (.configParse context details) →
    ∃ v raw message, FirstBad env readVariables v raw ∧
      Failure.configParse context details = badValue v.name raw message
  layers : (∀ v ∈ readVariables, ∀ raw, ¬ v.IsBad env raw) →
    ∃ s, inForce asked find env = .ok s ∧
      InLayers es env (asked.getD PathSettings.usual.configFile) s ∧
      load asked find env = check s >>= fun _ => .ok s

theorem check_error {s : Settings} {f : Failure} (refused : check s = .error f) :
    ∃ details, f = .invalidConfig details := by
  rcases check_checks s with ⟨-, passed⟩ | ⟨-, details, failed⟩
  · cases refused.symm.trans passed
  · exact ⟨details, Except.error.inj (refused.symm.trans failed)⟩

theorem check_congr {s t : Settings} (collector : s.collector = t.collector)
    (logging : s.logging = t.logging) (watch : s.watch = t.watch) : check s = check t := by
  simp only [check, collector, logging, watch]

theorem inForce_of_documented {asked : Option Path} {find : Path → Found} {file : Settings}
    (env : Environment)
    (documented : Documented asked.isSome (find (asked.getD PathSettings.usual.configFile)) es)
    (read : ofDocument es = .ok file) :
    inForce asked find env =
      overridden env { file with paths := {
        file.paths with configFile := asked.getD PathSettings.usual.configFile } } >>= fun o =>
          .ok o.finished := by
  have based := base_of_documented (asked.getD PathSettings.usual.configFile) documented read
  simp only [inForce, based]
  rfl

theorem inForce_of_empty_file (p : Path) (env : Environment) :
    inForce (some p) (fun _ => some (.ok [])) env =
      overridden env { Settings.usual with
        paths := { PathSettings.usual with configFile := p } } >>= fun o => .ok o.finished :=
  inForce_of_documented env (@Documented.text true "" [] rfl) rfl

theorem settings_come_in_layers {asked : Option Path} {find : Path → Found} {env : Environment}
    {es : Entries} {file : Settings}
    (documented : Documented asked.isSome (find (asked.getD PathSettings.usual.configFile)) es)
    (read : ofDocument es = .ok file) : LoadsInLayers asked find env es := by
  have begun := inForce_of_documented env documented read
  rcases overridden_readsAll env { file with paths := {
      file.paths with configFile := asked.getD PathSettings.usual.configFile } } with
    ⟨v, raw, message, first, refused⟩ | ⟨fine, o, overrides⟩
  · have failed : load asked find env = .error (badValue v.name raw message) := by
      simp only [load_eq, begun, refused]
      rfl
    have bad : ∃ v ∈ readVariables, ∃ raw, v.IsBad env raw := ⟨v, first.isBad.1, raw, first.isBad.2⟩
    constructor
    · exact ⟨fun _ => bad, fun _ => ⟨_, _, failed⟩⟩
    · intro context details failed'
      exact ⟨v, raw, message, first, Except.error.inj (failed'.symm.trans failed)⟩
    · intro fine
      obtain ⟨u, listed, raw, bad⟩ := bad
      exact absurd bad (fine u listed raw)
  · have inLayers := inLayers_of_overridden read overrides
    have found : inForce asked find env = .ok o.finished := by
      simp only [begun, overrides]
      rfl
    have loads : load asked find env = check o.finished >>= fun _ => .ok o.finished := by
      simp only [load_eq, found]
      rfl
    have no_parse : ∀ context details,
        load asked find env ≠ .error (.configParse context details) := by
      intro context details failed
      have refused := loads.symm.trans failed
      cases checked : check o.finished with
      | ok _ =>
        rw [checked] at refused
        cases refused
      | error f =>
        obtain ⟨wrong, rfl⟩ := check_error checked
        rw [checked] at refused
        cases refused
    constructor
    · constructor
      · rintro ⟨context, details, failed⟩
        exact absurd failed (no_parse context details)
      · rintro ⟨v, listed, raw, bad⟩
        exact absurd bad (fine v listed raw)
    · intro context details failed
      exact absurd failed (no_parse context details)
    · intro _
      exact ⟨_, found, inLayers, loads⟩

/-- A number is given with blanks around it, and a path with two slashes at its end. -/
def roomyEnvironment : Environment
  | "MOUNTGUARD_MOUNT_TIMEOUT_MS" => some (Text.utf8 " 7 ".toList)
  | "MOUNTGUARD_PROC_PATH" => some (Text.utf8 "/p//".toList)
  | _ => none

/-- The document that asks for two workers, as it is read. -/
def workersDocument : Entries :=
  [("collector", .table .headed [("stat_workers", .whole 2)])]

theorem settings_come_in_layers_of_file :
    Documented true (some (.ok (Text.utf8 "[collector]\nstat_workers = 2\n".toList)))
      workersDocument ∧
    ofDocument workersDocument =
      .ok { Settings.usual with collector := { CollectorSettings.usual with statWorkers := 2 } } ∧
    LoadsInLayers (some (.ofString "c"))
      (fun _ => some (.ok (Text.utf8 "[collector]\nstat_workers = 2\n".toList))) roomyEnvironment
      workersDocument := by
  have parsed : Toml.read "[collector]\nstat_workers = 2\n".toList = .ok workersDocument := by
    rw [String.toList_ofList]
    rfl
  have read : ofDocument workersDocument =
      .ok { Settings.usual with collector := { CollectorSettings.usual with statWorkers := 2 } } :=
    rfl
  exact ⟨.text parsed, read, settings_come_in_layers (.text parsed) read⟩

/-- A byte that is no text, where a number of workers is wanted. -/
def textlessEnvironment : Environment
  | "MOUNTGUARD_STAT_WORKERS" => some [0xFF]
  | _ => none

theorem finished_usual (p : Path) :
    finished { Settings.usual with paths := { PathSettings.usual with configFile := p } } =
      { Settings.usual with paths := { PathSettings.usual with configFile := p } } := by
  obtain ⟨proc, rootfs, log⟩ := withoutSlash_usual
  simp only [finished, normalized, Settings.usual, withoutUsualExcludes_usual, proc, rootfs, log]

/-- A variable may be set to bytes that are neither blank nor a number without making the load
fail: bytes that are no text count as unset. -/
theorem textless_number_passes :
    textlessEnvironment "MOUNTGUARD_STAT_WORKERS" = some [0xFF] ∧
    (¬ ∃ raw n, [0xFF] = Text.utf8 raw.toList ∧
      (Text.isBlankText raw.toList = true ∨ MeansWhole raw n)) ∧
    load (some (.ofString "c")) (fun _ => some (.ok [])) textlessEnvironment =
      .ok { Settings.usual with paths := {
        PathSettings.usual with configFile := .ofString "c" } } := by
  have no_text : Text.decode? [0xFF] = none := by decide +kernel
  refine ⟨rfl, ?_, ?_⟩
  · rintro ⟨raw, n, spelled, -⟩
    exact Text.decode?_eq_none.mp no_text ⟨_, spelled⟩
  · have unset : ∀ name, textlessEnvironment.text? name = none := by
      intro name
      unfold Environment.text? textlessEnvironment
      split
      · simp only [bind, Option.bind, Bytes.text?, no_text, Option.map_none]
      · rfl
    have found : inForce (some (.ofString "c")) (fun _ => some (.ok [])) textlessEnvironment =
        .ok { Settings.usual with paths := {
          PathSettings.usual with configFile := .ofString "c" } } := by
      refine (inForce_of_empty_file _ _).trans ?_
      exact bind_eq_ok.mpr ⟨_, overridden_of_unset unset _,
        congrArg Except.ok (finished_usual (.ofString "c"))⟩
    have checked : check { Settings.usual with paths := {
        PathSettings.usual with configFile := .ofString "c" } } = .ok () :=
      (check_congr rfl rfl rfl).trans check_usual
    rw [load_eq, found]
    exact bind_eq_ok.mpr ⟨_, rfl, bind_eq_ok.mpr ⟨(), checked, rfl⟩⟩

end Settings

end MountProbe
