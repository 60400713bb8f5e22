import MountProbe.Filter
import MountProbe.Stat.Record

namespace MountProbe.Command

inductive Paint where
  | red
  | green
  | yellow
  | dimmed
deriving DecidableEq, Inhabited, Repr

def Paint.code : Paint → String
  | red => "31"
  | green => "32"
  | yellow => "33"
  | dimmed => "2"

def paint (colors : Bool) (p : Paint) (s : String) : String :=
  if colors then "\x1b[" ++ p.code ++ "m" ++ s ++ "\x1b[0m" else s

def blanks (n : Nat) : String :=
  String.ofList (List.replicate n ' ')

def padRight (width : Nat) (s : String) : String :=
  s ++ blanks (width - s.length)

def padLeft (width : Nat) (s : String) : String :=
  blanks (width - s.length) ++ s

def units : List String := ["B", "KiB", "MiB", "GiB", "TiB", "PiB"]

def unitStep : Binary64 := Binary64.ofNat 1024

/-- Takes a number to larger units while it is too large, at most so many times; how often it was
divided, and what is left. -/
def rescale : Nat → Binary64 → Nat × Binary64
  | 0, x => (0, x)
  | n + 1, x =>
    if x.lt unitStep then (0, x)
    else
      let (times, y) := rescale n (x.div unitStep)
      (times + 1, y)

/-- A size in its unit; whole bytes, and one place in larger units. -/
def sizeText (x : Binary64) : String :=
  let (times, y) := rescale (units.length - 1) x
  y.fixed (if times = 0 then 0 else 1) ++ " " ++ units.getD times ""

def useText (r : Stat.Record) : String :=
  if r.size.isPositive then
    (((r.size.sub r.free).div r.size).mul (Binary64.ofNat 100)).fixed 0 ++ "%"
  else "-"

def statRow (mountPoint device fsType size available use status : String) : String :=
  padRight 28 mountPoint ++ " " ++ padRight 20 device ++ " " ++ padRight 10 fsType ++ " " ++
    padLeft 10 size ++ " " ++ padLeft 10 available ++ " " ++ padLeft 6 use ++ "  " ++ status ++ "\n"

/-- How a mount is: the reason of a failure is given only to those who ask for more. -/
def statusText (colors verbose : Bool) (r : Stat.Record) : String :=
  match r.cause with
  | some cause =>
    if verbose then paint colors .red ("error (" ++ cause ++ ")") else paint colors .red "error"
  | none => if r.isReadOnly then paint colors .yellow "ro" else paint colors .green "ok"

def recordRow (colors verbose : Bool) (r : Stat.Record) : String :=
  let status := statusText colors verbose r
  if r.isDeviceError then
    statRow r.label.mountPointText r.label.device r.label.fsType "-" "-" "-" status
  else
    statRow r.label.mountPointText r.label.device r.label.fsType (sizeText r.size)
      (sizeText r.available) (useText r) status

def recordTable (colors verbose : Bool) (records : List Stat.Record) : String :=
  statRow "MOUNTPOINT" "DEVICE" "FSTYPE" "SIZE" "AVAIL" "USE%" "STATUS" ++
    String.join (records.map (recordRow colors verbose))

def mountRow (mountPoint device fsType number verdict : String) : String :=
  padRight 28 mountPoint ++ " " ++ padRight 20 device ++ " " ++ padRight 12 fsType ++ " " ++
    padRight 9 number ++ " " ++ verdict ++ "\n"

def verdictText (colors isStuck : Bool) : Verdict → String
  | .accepted => if isStuck then paint colors .red "stuck" else paint colors .green "accepted"
  | v => paint colors .dimmed ("ignored (" ++ v.name ++ ")")

def mountLines (colors verbose isStuck : Bool) (m : Mount.Label) (v : Verdict) : String :=
  mountRow m.mountPointText m.device m.fsType (m.major ++ ":" ++ m.minor)
    (verdictText colors isStuck v) ++
  if verbose then "    options: " ++ m.mountOptions ++ " | " ++ m.superOptions ++ "\n" else ""

end MountProbe.Command
