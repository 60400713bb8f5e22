import MountProbe.Collector.Timetable

/-! A rehearsed system: a mount table and stat calls that do what they are told to, so that slow,
stuck and broken mounts can be met without having any. -/
namespace MountProbe

inductive Behaviour where
  | ready (counts : Stat.Counts)
  | fail (details : String)
  | hang (counts : Stat.Counts)
  | delay (ms : Nat) (counts : Stat.Counts)
  | breakOff
  | breakOffAfter (ms : Nat)
deriving DecidableEq, Inhabited, Repr

structure Rehearsal where
  mounts : List Mount.Label
  tableFailure : Option String
  behaviours : List (Path × Behaviour)
deriving Inhabited

namespace Behaviour

def conduct (p : Path) : Behaviour → Conduct
  | ready counts => .answers (.ok counts)
  | fail details => .answers (.error (.fsStats p details))
  | hang counts => .hangs (.ok counts)
  | delay ms counts => ⟨.answered (.ok counts), some (ms * ticksPerMs)⟩
  | breakOff => ⟨.broken ("mock statfs panic on " ++ p.display), some Conduct.moment⟩
  | breakOffAfter ms =>
    ⟨.broken ("mock statfs late panic on " ++ p.display), some (ms * ticksPerMs)⟩

def isHang : Behaviour → Bool
  | hang _ => true
  | _ => false

/-- What calls do after those that hang were let go: they hang no more. -/
def released : Behaviour → Behaviour
  | hang counts => ready counts
  | other => other

end Behaviour

namespace Rehearsal

def ofMounts (mounts : List Mount.Label) : Rehearsal :=
  ⟨mounts, none, []⟩

def behaviour? (r : Rehearsal) (p : Path) : Option Behaviour :=
  (r.behaviours.find? fun b => b.1.same p).map Prod.snd

def set (r : Rehearsal) (p : Path) (b : Behaviour) : Rehearsal :=
  { r with behaviours := (p, b) :: r.behaviours }

def failTable (r : Rehearsal) (details : String) : Rehearsal :=
  { r with tableFailure := some details }

def table (r : Rehearsal) : Except Failure (List Mount.Label) :=
  match r.tableFailure with
  | some details => .error (.mountParse details)
  | none => .ok r.mounts

/-- What a call on a mount point does that starts now; one that was told nothing finds nothing. -/
def conduct (r : Rehearsal) (p : Path) : Conduct :=
  match r.behaviour? p with
  | some b => b.conduct p
  | none => .answers (.error (.fsStats p Errno.noEntry.statMessage))

def release (r : Rehearsal) (p : Path) : Rehearsal :=
  match r.behaviour? p with
  | some b => r.set p b.released
  | none => r

end Rehearsal

structure Stage where
  rehearsal : Rehearsal
  timetable : Timetable
deriving Inhabited

namespace Stage

def ofRehearsal (r : Rehearsal) : Stage :=
  ⟨r, .empty⟩

def registry (s : Stage) : Stuck.Registry :=
  s.timetable.traffic.race.registry

def mapRegistry (s : Stage) (f : Stuck.Registry → Stuck.Registry) : Stage :=
  let traffic := s.timetable.traffic
  let traffic := { traffic with race := { traffic.race with registry := f traffic.race.registry } }
  { s with timetable := { s.timetable with traffic } }

/-- Tells calls on a mount point what to do from now on. When new calls are to hang, those that
hang already are let go. -/
def set (s : Stage) (p : Path) (b : Behaviour) : Stage :=
  let t := if b.isHang then (s.timetable.letGo fun q => q.same p).catchUp else s.timetable
  ⟨s.rehearsal.set p b, t⟩

def release (s : Stage) (p : Path) : Stage :=
  ⟨s.rehearsal.release p, (s.timetable.letGo fun q => q.same p).settle p⟩

def scrape (s : Stage) (c : Collector) : Stage × Except Failure (List Stat.Record) :=
  match s.rehearsal.table with
  | .error f => (s, .error f)
  | .ok mounts =>
    let (t, records) := s.timetable.scrape s.rehearsal.conduct c mounts
    ({ s with timetable := t }, .ok records)

def ask (s : Stage) (g : Guard) (l : Mount.Label) : Stage × Stuck.Outcome :=
  let (t, o) := s.timetable.ask s.rehearsal.conduct g l
  ({ s with timetable := t }, o)

def events (s : Stage) : List Journal.Event :=
  s.timetable.traffic.events.reverse

end Stage

end MountProbe
