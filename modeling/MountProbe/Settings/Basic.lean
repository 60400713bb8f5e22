import MountProbe.Path

namespace MountProbe

/-- How mounts are chosen and asked for their counts. An empty pattern is no pattern. -/
structure CollectorSettings where
  mountTimeoutMs : Nat
  /-- How many stat calls may run at once; none counts as one. -/
  statWorkers : Nat
  mountPointsExclude : String
  mountPointsInclude : String
  fsTypesExclude : String
  fsTypesInclude : String
deriving DecidableEq, BEq, Inhabited, Repr

structure PathSettings where
  configFile : Path
  /-- The mount table is read below this directory. -/
  procPath : Path
  /-- The directory that is the root of the host. -/
  rootfsPath : Path
  jsonlLog : Path
deriving DecidableEq, BEq, Inhabited, Repr

structure LoggingSettings where
  jsonlEnabled : Bool
  verbose : Bool
  maxSizeBytes : Nat
  maxRotatedFiles : Nat
deriving DecidableEq, BEq, Inhabited, Repr

structure WatchSettings where
  scrapeIntervalMs : Nat
  /-- The file that every scrape rewrites; without it, scrapes go to the output. -/
  outputFile : Option Path
deriving DecidableEq, BEq, Inhabited, Repr

structure Settings where
  collector : CollectorSettings
  paths : PathSettings
  logging : LoggingSettings
  watch : WatchSettings
deriving DecidableEq, BEq, Inhabited, Repr

namespace CollectorSettings

def usualMountPointsExclude : String :=
  "^/(dev|proc|run/credentials/.+|sys|var/lib/docker/.+|var/lib/containers/storage/.+)($|/)"

def usualFsTypesExclude : String :=
  "^(autofs|binfmt_misc|bpf|cgroup2?|configfs|debugfs|devpts|devtmpfs|fusectl|hugetlbfs|iso9660|" ++
    "mqueue|nsfs|overlay|proc|procfs|pstore|rpc_pipefs|securityfs|selinuxfs|squashfs|erofs|sysfs|" ++
    "tracefs)$"

def usual : CollectorSettings where
  mountTimeoutMs := 5000
  statWorkers := 4
  mountPointsExclude := usualMountPointsExclude
  mountPointsInclude := ""
  fsTypesExclude := usualFsTypesExclude
  fsTypesInclude := ""

def workers (c : CollectorSettings) : Nat :=
  max c.statWorkers 1

end CollectorSettings

def PathSettings.usual : PathSettings where
  configFile := Path.ofString "/etc/mountguard/config.toml"
  procPath := Path.ofString "/proc"
  rootfsPath := Path.ofString "/"
  jsonlLog := Path.ofString "/var/lib/mountguard/activity.jsonl"

def LoggingSettings.usual : LoggingSettings where
  jsonlEnabled := true
  verbose := false
  maxSizeBytes := 33554432
  maxRotatedFiles := 5

def WatchSettings.usual : WatchSettings where
  scrapeIntervalMs := 15000
  outputFile := none

def Settings.usual : Settings where
  collector := .usual
  paths := .usual
  logging := .usual
  watch := .usual

end MountProbe
