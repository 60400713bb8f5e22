import MountProbe.Mount.HostRoot
import MountProbe.Mount.Table

/-! Where the mount table is read from. The first process sees the mounts of the whole system; if
it is hidden, our own view is taken. -/
namespace MountProbe.Mount

/-- Where mounts are found: the directory of processes, and the host's root. -/
structure Source where
  procPath : Path
  root : HostRoot
deriving DecidableEq, Inhabited, Repr

namespace Source

def primary (s : Source) : Path :=
  s.procPath.join (Path.ofString "1/mountinfo")

def secondary (s : Source) : Path :=
  s.procPath.join (Path.ofString "self/mountinfo")

def readText (read : Path → Except IoFault Bytes) (p : Path) : Except IoFault (List Char) := do
  match Text.decode? (← read p) with
  | some cs => return cs
  | none => .error .notText

def tableText (s : Source) (read : Path → Except IoFault Bytes) : Except Failure (List Char) :=
  match readText read s.primary with
  | .ok text => .ok text
  | .error fault =>
    if fault.isMissing then
      match readText read s.secondary with
      | .ok text => .ok text
      | .error fault => .error (.io s.secondary fault)
    else .error (.io s.primary fault)

def mounts (s : Source) (read : Path → Except IoFault Bytes) : Table.Reading :=
  match s.tableText read with
  | .error f => ⟨[], .error f⟩
  | .ok text =>
    let r := Table.read text
    ⟨r.skipped, r.mounts.map fun ms =>
      ms.map fun m => { m with mountPoint := s.root.hostName m.mountPoint }⟩

end Source

end MountProbe.Mount
