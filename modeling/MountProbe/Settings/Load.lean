import MountProbe.Filter
import MountProbe.Settings.Document
import MountProbe.Text.Quoted

/-! The settings in force: those of the file, or the usual ones without it, then what the
environment says instead, then what follows from the rest. The result is checked. -/
namespace MountProbe.Settings

/-- What stands under a name in the environment. A value that is no text, or blank, counts as
missing. -/
abbrev Environment := String → Option Bytes

def Environment.text? (env : Environment) (name : String) : Option String := do
  let bytes ← env name
  let s ← bytes.text?
  if Text.isBlankText s.toList then none else some s

def badValue (name raw message : String) : Failure :=
  .configParse "env" (name ++ "=" ++ Text.quote raw ++ ": " ++ message)

def wholeFrom (env : Environment) (name : String) (n : Nat) : Except Failure Nat :=
  match env.text? name with
  | none => .ok n
  | some raw =>
    match Text.readNumeral Text.maxWord64 (String.ofList (Text.trim raw.toList)) with
    | .ok n => .ok n
    | .error fault => .error (badValue name raw fault.message)

def truthFrom (env : Environment) (name : String) (b : Bool) : Except Failure Bool :=
  match env.text? name with
  | none => .ok b
  | some raw =>
    match Text.readTruth (String.ofList (Text.trim raw.toList)) with
    | some b => .ok b
    | none => .error (badValue name raw "provided string was not `true` or `false`")

def textFrom (env : Environment) (name s : String) : String :=
  (env.text? name).getD s

def pathFrom (env : Environment) (name : String) (p : Path) : Path :=
  ((env.text? name).map Path.ofString).getD p

def variableNames : List String :=
  ["MOUNTGUARD_MOUNT_TIMEOUT_MS", "MOUNTGUARD_STAT_WORKERS", "MOUNTGUARD_MOUNT_POINTS_EXCLUDE",
    "MOUNTGUARD_MOUNT_POINTS_INCLUDE", "MOUNTGUARD_FS_TYPES_EXCLUDE",
    "MOUNTGUARD_FS_TYPES_INCLUDE", "MOUNTGUARD_PROC_PATH", "MOUNTGUARD_ROOTFS_PATH",
    "MOUNTGUARD_JSONL_LOG", "MOUNTGUARD_JSONL_ENABLED", "MOUNTGUARD_LOG_VERBOSE",
    "MOUNTGUARD_SCRAPE_INTERVAL_MS", "MOUNTGUARD_OUTPUT_FILE"]

/-- The settings with what the environment says instead. The first unreadable value fails. -/
def overridden (env : Environment) (s : Settings) : Except Failure Settings := do
  let mountTimeoutMs ← wholeFrom env "MOUNTGUARD_MOUNT_TIMEOUT_MS" s.collector.mountTimeoutMs
  let statWorkers ← wholeFrom env "MOUNTGUARD_STAT_WORKERS" s.collector.statWorkers
  let jsonlEnabled ← truthFrom env "MOUNTGUARD_JSONL_ENABLED" s.logging.jsonlEnabled
  let verbose ← truthFrom env "MOUNTGUARD_LOG_VERBOSE" s.logging.verbose
  let scrapeIntervalMs ←
    wholeFrom env "MOUNTGUARD_SCRAPE_INTERVAL_MS" s.watch.scrapeIntervalMs
  return {
    collector := {
      mountTimeoutMs, statWorkers
      mountPointsExclude :=
        textFrom env "MOUNTGUARD_MOUNT_POINTS_EXCLUDE" s.collector.mountPointsExclude
      mountPointsInclude :=
        textFrom env "MOUNTGUARD_MOUNT_POINTS_INCLUDE" s.collector.mountPointsInclude
      fsTypesExclude := textFrom env "MOUNTGUARD_FS_TYPES_EXCLUDE" s.collector.fsTypesExclude
      fsTypesInclude := textFrom env "MOUNTGUARD_FS_TYPES_INCLUDE" s.collector.fsTypesInclude }
    paths := {
      s.paths with
      procPath := pathFrom env "MOUNTGUARD_PROC_PATH" s.paths.procPath
      rootfsPath := pathFrom env "MOUNTGUARD_ROOTFS_PATH" s.paths.rootfsPath
      jsonlLog := pathFrom env "MOUNTGUARD_JSONL_LOG" s.paths.jsonlLog }
    logging := { s.logging with jsonlEnabled, verbose }
    watch := {
      scrapeIntervalMs
      outputFile :=
        match env.text? "MOUNTGUARD_OUTPUT_FILE" with
        | some raw => some (Path.ofString raw)
        | none => s.watch.outputFile } }

/-- An include pattern takes the place of the usual exclude pattern; only an exclude pattern that
was chosen stands against it. -/
def withoutUsualExcludes (c : CollectorSettings) : CollectorSettings :=
  let c :=
    if ¬ c.mountPointsInclude.isEmpty ∧
        c.mountPointsExclude = CollectorSettings.usualMountPointsExclude then
      { c with mountPointsExclude := "" }
    else c
  if ¬ c.fsTypesInclude.isEmpty ∧ c.fsTypesExclude = CollectorSettings.usualFsTypesExclude then
    { c with fsTypesExclude := "" }
  else c

def withoutSlash (p : Path) : Path :=
  let cs := p.display.toList
  if 1 < (Text.utf8 cs).length ∧ cs.getLast? = some '/' then ⟨Text.utf8 cs.dropLast⟩ else p

def normalized (s : Settings) : Settings :=
  { s with
    paths := {
      s.paths with
      procPath := withoutSlash s.paths.procPath
      rootfsPath := withoutSlash s.paths.rootfsPath
      jsonlLog := withoutSlash s.paths.jsonlLog } }

def checkPattern [Patterns] (target kind source : String) : Except Failure Unit :=
  if source.isEmpty then .ok ()
  else
    match Patterns.compile source with
    | .ok _ => .ok ()
    | .error message =>
      .error (.invalidConfig ("collector." ++ target ++ "_" ++ kind ++ " is not a valid regex: " ++
        message))

/-- Checks a pair of patterns: at most one is set, and it compiles. -/
def checkPatterns [Patterns] (target exclude includeOnly : String) : Except Failure Unit := do
  if ¬ exclude.isEmpty ∧ ¬ includeOnly.isEmpty then
    .error (.invalidConfig ("collector." ++ target ++ "_exclude and collector." ++ target ++
      "_include are mutually exclusive"))
  checkPattern target "exclude" exclude
  checkPattern target "include" includeOnly

def leastLogSize : Nat := 4096

def check [Patterns] (s : Settings) : Except Failure Unit := do
  if s.collector.mountTimeoutMs = 0 then
    .error (.invalidConfig "collector.mount_timeout_ms must be > 0")
  if s.watch.scrapeIntervalMs = 0 then
    .error (.invalidConfig "daemon.scrape_interval_ms must be > 0")
  checkPatterns "mount_points" s.collector.mountPointsExclude s.collector.mountPointsInclude
  checkPatterns "fs_types" s.collector.fsTypesExclude s.collector.fsTypesInclude
  if s.logging.maxSizeBytes < leastLogSize then
    .error (.invalidConfig ("logging.max_size_bytes must be >= 4096, got " ++
      toString s.logging.maxSizeBytes))

/-- What is found where a file is named: nothing, a failure to read it, or its bytes. -/
abbrev Found := Option (Except IoFault Bytes)

def textOfFile (p : Path) : Except IoFault Bytes → Except Failure String
  | .error fault => .error (.io p fault)
  | .ok bytes =>
    match bytes.text? with
    | some s => .ok s
    | none => .error (.io p .notText)

/-- The settings of the file at a path; the usual ones if it is missing and was not asked for. -/
def base (explicit : Bool) (p : Path) : Found → Except Failure Settings
  | none => if explicit then .error (.missingConfig p) else .ok Settings.usual
  | some contents => do read (← textOfFile p contents)

def load [Patterns] (asked : Option Path) (find : Path → Found) (env : Environment) :
    Except Failure Settings := do
  let p := asked.getD PathSettings.usual.configFile
  let s ← base asked.isSome p (find p)
  let s ← overridden env { s with paths := { s.paths with configFile := p } }
  let s := normalized { s with collector := withoutUsualExcludes s.collector }
  check s
  return s

end MountProbe.Settings
