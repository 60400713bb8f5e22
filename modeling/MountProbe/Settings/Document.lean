import MountProbe.Failure
import MountProbe.Settings.Basic
import MountProbe.Text.Numeral
import MountProbe.Toml.Document

namespace MountProbe

open Toml (Value Fault Entries)

namespace Settings

/-- The settings of a group by name, from a table or from a list in the order of the names. -/
def group (names : List String) : Value → Except Fault Entries
  | .table _ es => .ok es
  | .list items => .ok (names.zip items)
  | .tables latestFirst => .ok (names.zip latestFirst.reverse)
  | .date => .ok []
  | _ => .error (.wrongKind "a table")

def setting {α : Type} (read : Value → Except Fault α) (es : Entries) (name : String) (usual : α) :
    Except Fault α :=
  match es.get? name with
  | none => .ok usual
  | some v => read v

def wholeUpTo (limit : Nat) : Value → Except Fault Nat
  | .whole n => if 0 ≤ n ∧ n ≤ limit then .ok n.toNat else .error (.wrongKind "a smaller number")
  | _ => .error (.wrongKind "a whole number")

def textOf : Value → Except Fault String
  | .text s => .ok s
  | _ => .error (.wrongKind "a string")

def truthOf : Value → Except Fault Bool
  | .truth b => .ok b
  | _ => .error (.wrongKind "a boolean")

def pathOf (v : Value) : Except Fault Path :=
  (textOf v).map Path.ofString

def readCollector (v : Value) : Except Fault CollectorSettings := do
  let es ← group ["mount_timeout_ms", "stat_workers", "mount_points_exclude",
    "mount_points_include", "fs_types_exclude", "fs_types_include"] v
  let d := CollectorSettings.usual
  return {
    mountTimeoutMs :=
      ← setting (wholeUpTo Text.maxWord64) es "mount_timeout_ms" d.mountTimeoutMs
    statWorkers := ← setting (wholeUpTo Text.maxWord64) es "stat_workers" d.statWorkers
    mountPointsExclude := ← setting textOf es "mount_points_exclude" d.mountPointsExclude
    mountPointsInclude := ← setting textOf es "mount_points_include" d.mountPointsInclude
    fsTypesExclude := ← setting textOf es "fs_types_exclude" d.fsTypesExclude
    fsTypesInclude := ← setting textOf es "fs_types_include" d.fsTypesInclude }

def readPaths (v : Value) : Except Fault PathSettings := do
  let es ← group ["config_file", "proc_path", "rootfs_path", "jsonl_log"] v
  let d := PathSettings.usual
  return {
    configFile := ← setting pathOf es "config_file" d.configFile
    procPath := ← setting pathOf es "proc_path" d.procPath
    rootfsPath := ← setting pathOf es "rootfs_path" d.rootfsPath
    jsonlLog := ← setting pathOf es "jsonl_log" d.jsonlLog }

def readLogging (v : Value) : Except Fault LoggingSettings := do
  let es ← group ["jsonl_enabled", "verbose", "max_size_bytes", "max_rotated_files"] v
  let d := LoggingSettings.usual
  return {
    jsonlEnabled := ← setting truthOf es "jsonl_enabled" d.jsonlEnabled
    verbose := ← setting truthOf es "verbose" d.verbose
    maxSizeBytes := ← setting (wholeUpTo Text.maxWord64) es "max_size_bytes" d.maxSizeBytes
    maxRotatedFiles :=
      ← setting (wholeUpTo Text.maxWord32) es "max_rotated_files" d.maxRotatedFiles }

def readWatch (v : Value) : Except Fault WatchSettings := do
  let es ← group ["scrape_interval_ms", "output_file"] v
  let d := WatchSettings.usual
  return {
    scrapeIntervalMs :=
      ← setting (wholeUpTo Text.maxWord64) es "scrape_interval_ms" d.scrapeIntervalMs
    outputFile := ← setting (fun v => (pathOf v).map some) es "output_file" d.outputFile }

def ofDocument (es : Entries) : Except Fault Settings := do
  let d := Settings.usual
  return {
    collector := ← setting readCollector es "collector" d.collector
    paths := ← setting readPaths es "paths" d.paths
    logging := ← setting readLogging es "logging" d.logging
    watch := ← setting readWatch es "daemon" d.watch }

def read (text : String) : Except Failure Settings :=
  match Toml.read text.toList >>= ofDocument with
  | .ok s => .ok s
  | .error fault => .error (.configParse "toml" fault.message)

end Settings

end MountProbe
