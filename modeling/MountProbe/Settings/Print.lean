import MountProbe.Mount.Label
import MountProbe.Settings.Basic
import MountProbe.Text.Numeral
import MountProbe.Toml.Quoted

/-! Settings written out: as structured output, as a settings document, and as a fingerprint that
is the same for the same settings. -/
namespace MountProbe

def CollectorSettings.toJson (c : CollectorSettings) : Json :=
  .object [("mount_timeout_ms", .whole c.mountTimeoutMs), ("stat_workers", .whole c.statWorkers),
    ("mount_points_exclude", .text c.mountPointsExclude),
    ("mount_points_include", .text c.mountPointsInclude),
    ("fs_types_exclude", .text c.fsTypesExclude), ("fs_types_include", .text c.fsTypesInclude)]

def PathSettings.toJson (p : PathSettings) : Except Failure Json := do
  let configFile ← Mount.Label.pathJson p.configFile
  let procPath ← Mount.Label.pathJson p.procPath
  let rootfsPath ← Mount.Label.pathJson p.rootfsPath
  let jsonlLog ← Mount.Label.pathJson p.jsonlLog
  return .object [("config_file", configFile), ("proc_path", procPath),
    ("rootfs_path", rootfsPath), ("jsonl_log", jsonlLog)]

def LoggingSettings.toJson (l : LoggingSettings) : Json :=
  .object [("jsonl_enabled", .bool l.jsonlEnabled), ("verbose", .bool l.verbose),
    ("max_size_bytes", .whole l.maxSizeBytes), ("max_rotated_files", .whole l.maxRotatedFiles)]

def WatchSettings.toJson (w : WatchSettings) : Except Failure Json := do
  let outputFile ←
    match w.outputFile with
    | none => pure Json.null
    | some p => Mount.Label.pathJson p
  return .object [("scrape_interval_ms", .whole w.scrapeIntervalMs), ("output_file", outputFile)]

namespace Settings

def toJson (s : Settings) : Except Failure Json := do
  let paths ← s.paths.toJson
  let watch ← s.watch.toJson
  return .object [("collector", s.collector.toJson), ("paths", paths),
    ("logging", s.logging.toJson), ("daemon", watch)]

def mixByte (hash : UInt64) (b : UInt8) : UInt64 :=
  (hash ^^^ b.toUInt64) * 0x100000001b3

def fnv1a (bytes : Bytes) : UInt64 :=
  bytes.foldl mixByte 0xcbf29ce484222325

/-- The hash of the settings as structured output, in sixteen hexadecimal digits. -/
def fingerprint (s : Settings) : Except Failure String := do
  let json ← s.toJson
  return Text.hex16 (fnv1a (Text.utf8 json.render)).toNat

inductive PrintFault where
  | tooLarge
  | pathNotText
deriving DecidableEq, Repr

def PrintFault.message : PrintFault → String
  | tooLarge => "out-of-range value for u64 type"
  | pathNotText => "path contains invalid UTF-8 characters"

def line (name value : String) : String :=
  name ++ " = " ++ value ++ "\n"

/-- A whole number in a document, where numbers are signed. -/
def wholeText (n : Nat) : Except PrintFault String :=
  if n ≤ 9223372036854775807 then .ok (toString n) else .error .tooLarge

def quoted (s : String) : String :=
  String.ofList (Toml.quote s.toList)

def pathText (p : Path) : Except PrintFault String :=
  match p.raw.text? with
  | some s => .ok (quoted s)
  | none => .error .pathNotText

def toDocument (s : Settings) : Except PrintFault String := do
  let c := s.collector
  let timeout ← wholeText c.mountTimeoutMs
  let workers ← wholeText c.statWorkers
  let configFile ← pathText s.paths.configFile
  let procPath ← pathText s.paths.procPath
  let rootfsPath ← pathText s.paths.rootfsPath
  let jsonlLog ← pathText s.paths.jsonlLog
  let maxSize ← wholeText s.logging.maxSizeBytes
  let maxFiles ← wholeText s.logging.maxRotatedFiles
  let interval ← wholeText s.watch.scrapeIntervalMs
  let output ←
    match s.watch.outputFile with
    | none => pure ""
    | some p => (pathText p).map (line "output_file")
  return "[collector]\n" ++ line "mount_timeout_ms" timeout ++ line "stat_workers" workers ++
    line "mount_points_exclude" (quoted c.mountPointsExclude) ++
    line "mount_points_include" (quoted c.mountPointsInclude) ++
    line "fs_types_exclude" (quoted c.fsTypesExclude) ++
    line "fs_types_include" (quoted c.fsTypesInclude) ++
    "\n[paths]\n" ++ line "config_file" configFile ++ line "proc_path" procPath ++
    line "rootfs_path" rootfsPath ++ line "jsonl_log" jsonlLog ++
    "\n[logging]\n" ++ line "jsonl_enabled" (if s.logging.jsonlEnabled then "true" else "false") ++
    line "verbose" (if s.logging.verbose then "true" else "false") ++
    line "max_size_bytes" maxSize ++ line "max_rotated_files" maxFiles ++
    "\n[daemon]\n" ++ line "scrape_interval_ms" interval ++ output

end Settings

end MountProbe
