import MountProbe.Mount.Label
import MountProbe.Pattern.Reader
import MountProbe.Settings.Basic

/-! Which mounts are looked at. A name is left out if the exclude pattern is found in it, or if
there is an include pattern that is not. -/
namespace MountProbe

/-- What compiles patterns: one that compiles says of each text whether it is found there, and any
other is refused with a message. -/
class Patterns where
  compile : String → Except String (String → Bool)

/-- The patterns of this library, as far as its tables of characters go. -/
instance : Patterns where
  compile source :=
    match Pattern.read source.toList with
    | .ok e => .ok fun text => e.isFoundIn text.toList
    | .error fault => .error fault.message

structure NameFilter where
  exclude : Option (String → Bool)
  includeOnly : Option (String → Bool)
deriving Inhabited

namespace NameFilter

/-- An empty pattern is none. -/
def readPattern [Patterns] (source : String) : Except Failure (Option (String → Bool)) :=
  if source.isEmpty then .ok none
  else
    match Patterns.compile source with
    | .ok finds => .ok (some finds)
    | .error message => .error (.invalidConfig ("invalid pattern: " ++ message))

def read [Patterns] (exclude includeOnly : String) : Except Failure NameFilter := do
  let exclude ← readPattern exclude
  let includeOnly ← readPattern includeOnly
  return { exclude, includeOnly }

def ignores (f : NameFilter) (name : String) : Bool :=
  f.exclude.any (fun finds => finds name) || f.includeOnly.any (fun finds => !finds name)

end NameFilter

inductive Verdict where
  | accepted
  | mountPointIgnored
  | fsTypeIgnored
deriving DecidableEq, Inhabited, Repr

def Verdict.name : Verdict → String
  | accepted => "accepted"
  | mountPointIgnored => "mount_point"
  | fsTypeIgnored => "fs_type"

structure MountFilters where
  mountPoints : NameFilter
  fsTypes : NameFilter
deriving Inhabited

namespace MountFilters

def ofSettings [Patterns] (c : CollectorSettings) : Except Failure MountFilters := do
  let mountPoints ← NameFilter.read c.mountPointsExclude c.mountPointsInclude
  let fsTypes ← NameFilter.read c.fsTypesExclude c.fsTypesInclude
  return { mountPoints, fsTypes }

/-- What becomes of a mount. The mount point is looked at first. -/
def verdict (f : MountFilters) (m : Mount.Label) : Verdict :=
  if f.mountPoints.ignores m.mountPointText then .mountPointIgnored
  else if f.fsTypes.ignores m.fsType then .fsTypeIgnored
  else .accepted

end MountFilters

end MountProbe
