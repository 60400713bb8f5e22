import MountProbe.Failure
import MountProbe.Json
import MountProbe.Text.Blank

namespace MountProbe.Mount

/-- A row of the mount table. Two mounts of one device with different options are different
rows. -/
structure Label where
  device : String
  mountPoint : Path
  fsType : String
  mountOptions : String := ""
  superOptions : String := ""
  major : String := "0"
  minor : String := "0"
deriving DecidableEq, Inhabited, Repr

namespace Label

/-- The rows agree; mount points are compared by their components. -/
def same (a b : Label) : Bool :=
  a.device = b.device && a.mountPoint.same b.mountPoint && a.fsType = b.fsType &&
    a.mountOptions = b.mountOptions && a.superOptions = b.superOptions && a.major = b.major &&
    a.minor = b.minor

def optionList (options : String) : List String :=
  (Text.splitAll ',' options.toList).map String.ofList

def isReadOnly (l : Label) : Bool :=
  (optionList l.mountOptions).contains "ro" || (optionList l.superOptions).contains "ro"

def withoutOptions (l : Label) : Label :=
  { l with mountOptions := "", superOptions := "" }

/-- The mount point as a metric shows it: text, with U+FFFD for bytes that are none. -/
def mountPointText (l : Label) : String :=
  l.mountPoint.display

def pathJson (p : Path) : Except Failure Json :=
  match p.raw.text? with
  | some s => .ok (.text s)
  | none => .error (.serialization "serde_json" "path contains invalid UTF-8 characters")

def toJson (l : Label) : Except Failure Json :=
  (pathJson l.mountPoint).map fun mountPoint =>
    .object [("device", .text l.device), ("mount_point", mountPoint),
      ("fs_type", .text l.fsType), ("mount_options", .text l.mountOptions),
      ("super_options", .text l.superOptions), ("major", .text l.major),
      ("minor", .text l.minor)]

end Label

end MountProbe.Mount
