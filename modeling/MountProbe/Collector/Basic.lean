import MountProbe.Filter
import MountProbe.Journal.Entry
import MountProbe.Stat.Record
import MountProbe.Stuck.Race

/-! The collector: which mounts a scrape looks at, and what it says about each. Of mounts on one
mount point only the first is asked for; the others share its counts. -/
namespace MountProbe

open Stuck (Outcome)

/-- How stat calls are watched over. -/
structure Guard where
  timeoutMs : Nat
  logged : Bool
deriving DecidableEq, Inhabited, Repr

structure Collector where
  filters : MountFilters
  workers : Nat
  guard : Guard
deriving Inhabited

namespace Collector

def ofSettings [Patterns] (c : CollectorSettings) (logged : Bool) : Except Failure Collector := do
  let filters ← MountFilters.ofSettings c
  return { filters, workers := c.workers, guard := ⟨c.mountTimeoutMs, logged⟩ }

def verdicts (c : Collector) (mounts : List Mount.Label) : List (Mount.Label × Verdict) :=
  mounts.map fun m => (m, c.filters.verdict m)

def accepted (c : Collector) (mounts : List Mount.Label) : List Mount.Label :=
  mounts.filter fun m => c.filters.verdict m = .accepted

def ignored (c : Collector) (mounts : List Mount.Label) : List Journal.Event :=
  mounts.filterMap fun m =>
    match c.filters.verdict m with
    | .accepted => none
    | v => some (.mountIgnored m.mountPointText m.fsType v.name)

end Collector

namespace Mount

/-- The first mount on each mount point and the others, each in order; mount points that were
taken before count as seen. -/
def splitRepeated (seen : List Path) : List Label → List Label × List Label
  | [] => ([], [])
  | m :: rest =>
    if seen.any fun p => p.same m.mountPoint then
      let (first, others) := splitRepeated seen rest
      (first, m :: others)
    else
      let (first, others) := splitRepeated (m.mountPoint :: seen) rest
      (m :: first, others)

end Mount

namespace Stat.Record

def ofOutcome (l : Mount.Label) : Outcome → Record
  | .completed (.ok counts) => ofCounts l counts
  | .completed (.error f) => failed l f.cause
  | .timedOut => stuck l

/-- The records of mounts that share the counts of an earlier record. -/
def shared (records : List Record) (repeated : List Mount.Label) : List Record :=
  repeated.filterMap fun l =>
    (records.find? fun r => r.mountPoint.same l.mountPoint).map fun r => r.relabel l

end Stat.Record

namespace Journal.Event

def ofOutcome? (l : Mount.Label) (timeoutMs : Nat) : Outcome → Option Event
  | .completed (.ok _) => none
  | .completed (.error f) =>
    some (.statFailed l.mountPointText l.device l.fsType f.code f.cause)
  | .timedOut => some (.mountStuck l.mountPointText l.device l.fsType timeoutMs)

def skipped (l : Mount.Label) : Event :=
  .mountSkipped l.mountPointText l.device l.fsType

end Journal.Event

end MountProbe
