import MountProbe.Mount.Label
import MountProbe.Stat.Counts

namespace MountProbe.Stat

/-- One mount in one scrape. The label has no options. -/
structure Record where
  label : Mount.Label
  size : Binary64
  free : Binary64
  available : Binary64
  files : Binary64
  filesFree : Binary64
  readOnly : Binary64
  deviceError : Binary64
  /-- Why there are no values; it is logged and never becomes a label. -/
  cause : Option String
deriving DecidableEq, Inhabited, Repr

def timeoutCause : String := "mountpoint timeout"

def flag (b : Bool) : Binary64 :=
  if b then Binary64.one else Binary64.zero

namespace Record

def ofCounts (l : Mount.Label) (c : Counts) : Record where
  label := l.withoutOptions
  size := c.size
  free := c.free
  available := c.available
  files := Binary64.ofNat c.files
  filesFree := Binary64.ofNat c.filesFree
  readOnly := flag l.isReadOnly
  deviceError := Binary64.zero
  cause := none

def failed (l : Mount.Label) (cause : String) : Record where
  label := l.withoutOptions
  size := Binary64.zero
  free := Binary64.zero
  available := Binary64.zero
  files := Binary64.zero
  filesFree := Binary64.zero
  readOnly := flag l.isReadOnly
  deviceError := Binary64.one
  cause := some cause

def stuck (l : Mount.Label) : Record :=
  failed l timeoutCause

/-- The same result for another row with the same mount point. -/
def relabel (r : Record) (l : Mount.Label) : Record :=
  { r with label := l.withoutOptions, readOnly := flag l.isReadOnly }

def isDeviceError (r : Record) : Bool :=
  r.deviceError.isPositive

def isReadOnly (r : Record) : Bool :=
  r.readOnly.isPositive

def mountPoint (r : Record) : Path :=
  r.label.mountPoint

def toJson (r : Record) : Except Failure Json :=
  r.label.toJson.map fun label =>
    .object ([("labels", label), ("size", .real r.size), ("free", .real r.free),
      ("avail", .real r.available), ("files", .real r.files), ("files_free", .real r.filesFree),
      ("ro", .real r.readOnly), ("device_error", .real r.deviceError)] ++
      match r.cause with
      | none => []
      | some cause => [("cause", .text cause)])

end Record

end MountProbe.Stat
