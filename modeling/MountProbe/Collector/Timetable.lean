import MountProbe.Collector.Traffic

/-! Scrapes in time. How long every stat call takes is known when it starts, so that the next step
is always the earliest one: dispatchers lose no time, a call comes back when it is due, and a caller
gives up at its deadline. Time is counted in microseconds. -/
namespace MountProbe

open Stuck (Ending)

structure Conduct where
  ending : Ending
  /-- When it comes back, counted from its start; a call that hangs waits to be let go. -/
  after : Option Nat
deriving Inhabited

namespace Conduct

def moment : Nat := 1

def answers (a : Stat.Answer) : Conduct :=
  ⟨.answered a, some moment⟩

def hangs (a : Stat.Answer) : Conduct :=
  ⟨.answered a, none⟩

end Conduct

def ticksPerMs : Nat := 1000

/-- When a call comes back and how, and when its caller gives up. -/
structure Appointment where
  ending : Ending
  due : Option Nat
  deadline : Nat
deriving Inhabited

structure Timetable where
  traffic : Traffic
  appointments : List Appointment
  now : Nat
deriving Inhabited

namespace Timetable

def empty : Timetable :=
  ⟨.empty, [], 0⟩

inductive Due where
  | back (call : Nat)
  | deadline (call : Nat)
deriving DecidableEq, Repr

def appoint (t : Timetable) (c : Conduct) (g : Guard) : Timetable :=
  { t with
    appointments := t.appointments ++
      [⟨c.ending, c.after.map (t.now + ·), t.now + g.timeoutMs * ticksPerMs⟩] }

def duesOf (call : Nat) (c : Stuck.Call Client) (a : Appointment) : List (Nat × Due) :=
  (match a.due with
    | some time => if c.isRunning then [(time, .back call)] else []
    | none => []) ++
  match c.waiter with
  | .waiting => [(a.deadline, .deadline call)]
  | _ => []

def duesFrom (call : Nat) : List (Stuck.Call Client) → List Appointment → List (Nat × Due)
  | c :: cs, a :: as => duesOf call c a ++ duesFrom (call + 1) cs as
  | _, _ => []

/-- The earlier of two; of what falls due at one time the first. -/
def earlier (best : Option (Nat × Due)) (d : Nat × Due) : Option (Nat × Due) :=
  match best with
  | none => some d
  | some b => if d.1 < b.1 then some d else some b

def next? (t : Timetable) : Option (Nat × Due) :=
  (duesFrom 0 t.traffic.race.calls t.appointments).foldl earlier none

/-- A worker that was told an outcome hands it in; any other caller has nothing to hand in. -/
def handedIn (traffic : Traffic) (call : Nat) : Traffic :=
  (traffic.handIn? call).getD traffic

def comeBack (t : Timetable) (call : Nat) : Timetable :=
  let ended := do
    let a ← t.appointments[call]?
    let traffic ← t.traffic.finish? call a.ending
    traffic.report? t.now call
  match ended with
  | none => t
  | some traffic =>
    match traffic.receive? call with
    | none => { t with traffic }
    | some traffic => { t with traffic := handedIn traffic call }

def giveUp (t : Timetable) (call : Nat) : Timetable :=
  let looked := do
    let traffic ← t.traffic.expire? call
    traffic.look? t.now call
  match looked with
  | none => t
  | some traffic => { t with traffic := handedIn traffic call }

def pass? (t : Timetable) : Option Timetable := do
  let (time, due) ← t.next?
  let t := { t with now := max t.now time }
  match due with
  | .back call => return t.comeBack call
  | .deadline call => return t.giveUp call

def take? (conduct : Path → Conduct) (t : Timetable) (i : Nat) : Option Timetable := do
  let c ← t.traffic.cycles[i]?
  let l ← c.pool.handing
  let traffic ← t.traffic.take? i
  return { t with traffic }.appoint (conduct l.mountPoint) c.guard

/-- The next step of a cycle: what takes no time comes first, then what falls due while workers are
busy, then the end. -/
def step? (conduct : Path → Conduct) (i : Nat) (t : Timetable) : Option Timetable :=
  match t.traffic.consider? i with
  | some traffic => some { t with traffic }
  | none =>
    match t.take? conduct i with
    | some t => some t
    | none =>
      match t.traffic.collect? i with
      | some traffic => some { t with traffic }
      | none =>
        match t.traffic.close? t.now i with
        | some traffic => some { t with traffic }
        | none =>
          match t.traffic.records? i with
          | some _ => none
          | none => t.pass?

def drive (conduct : Path → Conduct) (i : Nat) : Nat → Timetable → Timetable
  | 0, t => t
  | n + 1, t =>
    match t.step? conduct i with
    | some t => t.drive conduct i n
    | none => t

/-- A scrape of a mount table: what it says. Each mount takes at most five steps, each earlier call
at most two, and the end one. -/
def scrape (conduct : Path → Conduct) (t : Timetable) (c : Collector)
    (mounts : List Mount.Label) : Timetable × List Stat.Record :=
  let i := t.traffic.cycles.length
  let steps := 5 * mounts.length + 2 * t.traffic.race.calls.length + 1
  let t := { t with traffic := t.traffic.begin t.now c mounts }.drive conduct i steps
  (t, (t.traffic.records? i).getD [])

/-- Lets time pass until a condition holds or nothing falls due, in at most so many steps. -/
def passUntil (stop : Timetable → Bool) : Nat → Timetable → Timetable
  | 0, t => t
  | n + 1, t =>
    if stop t then t
    else
      match t.pass? with
      | some t => passUntil stop n t
      | none => t

def remaining (t : Timetable) : Nat :=
  2 * t.traffic.race.calls.length

def outcome? (t : Timetable) (call : Nat) : Option Stuck.Outcome := do
  (← t.traffic.race.calls[call]?).outcome?

def ask (conduct : Path → Conduct) (t : Timetable) (g : Guard) (l : Mount.Label) :
    Timetable × Stuck.Outcome :=
  let call := t.traffic.race.calls.length
  let t := { t with traffic := t.traffic.call l g }.appoint (conduct l.mountPoint) g
  let t := t.passUntil (fun t => (t.outcome? call).isSome) t.remaining
  let o := (t.outcome? call).getD .timedOut
  ({ t with traffic := t.traffic.tell ⟨l, g, none⟩ o }, o)

def isUnderWay (p : Path) (c : Stuck.Call Client) (a : Appointment) : Bool :=
  c.isRunning && c.path.same p && a.due.isSome

def settle (t : Timetable) (p : Path) : Timetable :=
  t.passUntil
    (fun t =>
      !((t.traffic.race.calls.zip t.appointments).any fun (c, a) => isUnderWay p c a))
    t.remaining

def letGo (t : Timetable) (chosen : Path → Bool) : Timetable :=
  { t with
    appointments := (t.traffic.race.calls.zip t.appointments).map fun (c, a) =>
      if chosen c.path && a.due.isNone then { a with due := some t.now } else a }

def sleepUntil (t : Timetable) (time : Nat) : Timetable :=
  let t := t.passUntil
    (fun t =>
      match t.next? with
      | some (due, _) => time < due
      | none => true)
    t.remaining
  { t with now := max t.now time }

def catchUp (t : Timetable) : Timetable :=
  t.sleepUntil t.now

def finish (t : Timetable) : Timetable :=
  let t := t.letGo fun _ => true
  t.passUntil (fun _ => false) t.remaining

end Timetable

end MountProbe
