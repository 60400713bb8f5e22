import MountProbe.Path

/-! Where the host's root directory stands: in a container it is mounted below some directory,
and mount points are named by the host but looked up through that directory. -/
namespace MountProbe.Mount

structure HostRoot where
  directory : Path
deriving DecidableEq, Inhabited, Repr

namespace HostRoot

def slash : Path := ⟨[Path.slash]⟩

def isPlain (r : HostRoot) : Bool :=
  r.directory.same slash

def lookup (r : HostRoot) (mountPoint : Path) : Path :=
  if r.isPlain then mountPoint
  else r.directory.join ((mountPoint.below? slash).getD mountPoint)

/-- The host's name for a mount point; one outside the host's root keeps its name. -/
def hostName (r : HostRoot) (mountPoint : Path) : Path :=
  if r.isPlain then mountPoint
  else
    match mountPoint.below? r.directory with
    | some rest => slash.join rest
    | none => mountPoint

end HostRoot

end MountProbe.Mount
