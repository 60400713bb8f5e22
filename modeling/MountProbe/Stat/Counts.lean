import MountProbe.Binary64.Basic
import MountProbe.Mount.HostRoot
import MountProbe.Failure

namespace MountProbe.Stat

/-- What a stat call says about a file system. Counts and sizes are 64-bit numbers. -/
structure Counts where
  blockSize : Nat
  blocks : Nat
  blocksFree : Nat
  blocksAvailable : Nat
  files : Nat
  filesFree : Nat
deriving DecidableEq, Inhabited, Repr

/-- A count of blocks in bytes. The product is exact and is rounded once. -/
def scaledBytes (count blockSize : Nat) : Binary64 :=
  Binary64.ofNat (count * blockSize)

namespace Counts

def size (c : Counts) : Binary64 :=
  scaledBytes c.blocks c.blockSize

def free (c : Counts) : Binary64 :=
  scaledBytes c.blocksFree c.blockSize

def available (c : Counts) : Binary64 :=
  scaledBytes c.blocksAvailable c.blockSize

end Counts

abbrev Answer := Except Failure Counts

abbrev System := Path → Except Errno Counts

/-- Asks the system for a mount point of the host; the second part says which path was asked for,
if one was. A path with a zero byte is refused before the system sees it. -/
def ask (root : Mount.HostRoot) (system : System) (mountPoint : Path) : Answer × Option Path :=
  let target := root.lookup mountPoint
  if target.raw.contains 0 then
    (.error (.fsStats target Errno.invalidArgument.statMessage), none)
  else
    match system target with
    | .ok counts => (.ok counts, some target)
    | .error e => (.error (.fsStats target e.statMessage), some target)

end MountProbe.Stat
