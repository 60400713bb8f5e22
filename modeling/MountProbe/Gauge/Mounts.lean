import MountProbe.Gauge.Exposition
import MountProbe.Stat.Record

/-! The metrics of a scrape. Every mount has a series that says whether it could be looked at; the
series with its sizes are there only if it could. Of records for one device, mount point and file
system type the first counts. -/
namespace MountProbe.Gauge

/-- A metric: the label values and the number that a record has in it, if it is in it. -/
structure MountMetric where
  name : String
  help : String
  labels : List String
  values : Stat.Record → List String
  number? : Stat.Record → Option Binary64

def mountLabels : List String := ["device", "mountpoint", "fstype"]

def mountValues (r : Stat.Record) : List String :=
  [r.label.device, r.label.mountPointText, r.label.fsType]

def infoLabels : List String := ["device", "major", "minor", "mountpoint"]

def infoValues (r : Stat.Record) : List String :=
  [r.label.device, r.label.major, r.label.minor, r.label.mountPointText]

namespace MountMetric

def always (name help : String) (number : Stat.Record → Binary64) : MountMetric :=
  ⟨name, help, mountLabels, mountValues, fun r => some (number r)⟩

def measured (name help : String) (number : Stat.Record → Binary64) : MountMetric :=
  ⟨name, help, mountLabels, mountValues, fun r =>
    if r.isDeviceError then none else some (number r)⟩

def size : MountMetric :=
  measured "node_filesystem_size_bytes" "Filesystem size in bytes." Stat.Record.size

def free : MountMetric :=
  measured "node_filesystem_free_bytes" "Filesystem free space in bytes." Stat.Record.free

def available : MountMetric :=
  measured "node_filesystem_avail_bytes" "Filesystem space available to non-root users in bytes."
    Stat.Record.available

def files : MountMetric :=
  measured "node_filesystem_files" "Filesystem total file nodes." Stat.Record.files

def filesFree : MountMetric :=
  measured "node_filesystem_files_free" "Filesystem total free file nodes." Stat.Record.filesFree

def readOnly : MountMetric :=
  always "node_filesystem_readonly" "Filesystem read-only status." Stat.Record.readOnly

def deviceError : MountMetric :=
  always "node_filesystem_device_error"
    "Whether an error occurred while getting statistics for the given device."
    Stat.Record.deviceError

def info : MountMetric :=
  ⟨"node_filesystem_mount_info", "Filesystem mount information.", infoLabels, infoValues,
    fun _ => some Binary64.one⟩

def all : List MountMetric :=
  [size, free, available, files, filesFree, readOnly, deviceError, info]

def observe (m : MountMetric) (f : Family) (r : Stat.Record) : Family :=
  match m.number? r with
  | some x => f.put (m.values r) x
  | none => f

def family (m : MountMetric) (records : List Stat.Record) : Family :=
  records.foldl m.observe (Family.empty m.name m.help m.labels)

end MountMetric

/-- The records are about one device, mount point and file system type; mount points are compared
by their components. -/
def isRepeat (a b : Stat.Record) : Bool :=
  a.label.device = b.label.device && a.label.mountPoint.same b.label.mountPoint &&
    a.label.fsType = b.label.fsType

def firstsAfter (taken : List Stat.Record) : List Stat.Record → List Stat.Record
  | [] => []
  | r :: rest =>
    if taken.any fun t => isRepeat t r then firstsAfter taken rest
    else r :: firstsAfter (r :: taken) rest

/-- The first record of each device, mount point and file system type. -/
def firsts (records : List Stat.Record) : List Stat.Record :=
  firstsAfter [] records

def ofRecords (records : List Stat.Record) : Exposition :=
  ⟨MountMetric.all.map fun m => m.family (firsts records)⟩

end MountProbe.Gauge
