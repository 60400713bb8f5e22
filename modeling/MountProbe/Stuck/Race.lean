import MountProbe.Stat.Counts
import MountProbe.Stuck.Registry

/-! Stat calls with a deadline. A stat call cannot be stopped, so it runs beside its caller, who
waits for the answer or for the deadline. When the call comes back it reports in one piece: it
leaves its answer, says that it is over, and takes its mount point out of the registry. When the
deadline has passed the caller looks in one piece too: if the call is not over, the mount point
goes into the registry, and otherwise the answer is there to be taken. Every order of such steps,
of any number of calls on one registry, is a run of the race. -/
namespace MountProbe.Stuck

inductive Ending where
  | answered (answer : Stat.Answer)
  | broken (message : String)
deriving Inhabited

def Ending.answer (p : Path) : Ending → Stat.Answer
  | answered answer => answer
  | broken message =>
    .error (.runtime ("stat call on " ++ p.display ++ " panicked: " ++ message))

inductive Outcome where
  | completed (answer : Stat.Answer)
  | timedOut
deriving Inhabited

inductive Probe where
  | running
  /-- It is back and has not yet reported. -/
  | back (answer : Stat.Answer)
  | ended
deriving Inhabited

inductive Waiter where
  | waiting
  /-- The deadline has passed, and it has not yet looked. -/
  | expired
  /-- It has looked and found the call over. -/
  | late
  | told (outcome : Outcome)
deriving Inhabited

structure Call (κ : Type) where
  path : Path
  client : κ
  probe : Probe := .running
  /-- The answer that was left and not yet taken. -/
  slot : Option Stat.Answer := none
  waiter : Waiter := .waiting
deriving Inhabited

namespace Call

variable {κ : Type}

def isOver (c : Call κ) : Bool :=
  match c.probe with
  | .ended => true
  | _ => false

def isRunning (c : Call κ) : Bool :=
  match c.probe with
  | .running => true
  | _ => false

def outcome? (c : Call κ) : Option Outcome :=
  match c.waiter with
  | .told o => some o
  | _ => none

def hasTimedOut (c : Call κ) : Bool :=
  match c.waiter with
  | .told .timedOut => true
  | _ => false

/-- The caller has given up, and the call is still under way. -/
def isLeftBehind (c : Call κ) : Bool :=
  c.hasTimedOut && !c.isOver

def finish? (c : Call κ) (ending : Ending) : Option (Call κ) :=
  match c.probe with
  | .running => some { c with probe := .back (ending.answer c.path) }
  | _ => none

/-- The call leaves its answer and says that it is over. A caller who has been told does not take
answers any more. -/
def report? (c : Call κ) : Option (Call κ) :=
  match c.probe with
  | .back answer =>
    match c.waiter with
    | .told _ => some { c with probe := .ended }
    | _ => some { c with probe := .ended, slot := some answer }
  | _ => none

def expire? (c : Call κ) : Option (Call κ) :=
  match c.waiter with
  | .waiting => some { c with waiter := .expired }
  | _ => none

/-- The caller looks after its deadline; the second part says that the mount point is stuck. -/
def look? (c : Call κ) : Option (Call κ × Bool) :=
  match c.waiter with
  | .expired =>
    if c.isOver then some ({ c with waiter := .late }, false)
    else some ({ c with waiter := .told .timedOut }, true)
  | _ => none

def noAnswer (p : Path) : Stat.Answer :=
  .error (.runtime ("stat thread for " ++ p.display ++ " exited without a result"))

/-- The caller would find that the call is over and that it has left no answer. -/
def findsNothing (c : Call κ) : Bool :=
  match c.waiter with
  | .waiting => c.isOver && c.slot.isNone
  | .late => c.slot.isNone
  | _ => false

def receive? (c : Call κ) : Option (Call κ × Stat.Answer) :=
  if c.findsNothing then
    some ({ c with waiter := .told (.completed (noAnswer c.path)) }, noAnswer c.path)
  else
    match c.waiter, c.slot with
    | .waiting, some answer =>
      some ({ c with slot := none, waiter := .told (.completed answer) }, answer)
    | .late, some answer =>
      some ({ c with slot := none, waiter := .told (.completed answer) }, answer)
    | _, _ => none

end Call

structure Race (κ : Type) where
  registry : Registry
  calls : List (Call κ)
deriving Inhabited

namespace Race

variable {κ : Type}

def start (r : Race κ) (p : Path) (client : κ) : Race κ :=
  { r with calls := r.calls ++ [{ path := p, client }] }

def finish? (r : Race κ) (i : Nat) (ending : Ending) : Option (Race κ) := do
  let c ← (← r.calls[i]?).finish? ending
  return { r with calls := r.calls.set i c }

/-- A call reports; its mount point is stuck no more. The second part is the entry that was taken
out. -/
def report? (r : Race κ) (i : Nat) : Option (Race κ × Option Entry) := do
  let c ← (← r.calls[i]?).report?
  return (⟨r.registry.clear c.path, r.calls.set i c⟩, r.registry.entry? c.path)

def expire? (r : Race κ) (i : Nat) : Option (Race κ) := do
  let c ← (← r.calls[i]?).expire?
  return { r with calls := r.calls.set i c }

/-- A caller looks after its deadline; the second part says that its call has timed out. -/
def look? (r : Race κ) (now i : Nat) : Option (Race κ × Bool) := do
  let (c, stuck) ← (← r.calls[i]?).look?
  return (⟨(r.registry.markUnless now c.path !stuck).1, r.calls.set i c⟩, stuck)

def receive? (r : Race κ) (i : Nat) : Option (Race κ × Stat.Answer) := do
  let (c, answer) ← (← r.calls[i]?).receive?
  return ({ r with calls := r.calls.set i c }, answer)

inductive Deed where
  | back (ending : Ending)
  /-- It reports, and takes an entry out of the registry if there is one. -/
  | reported (cleared : Option Entry)
  | expired
  | looked (now : Nat) (stuck : Bool)
  | received (answer : Stat.Answer)

inductive Event (κ : Type) where
  | started (p : Path) (client : κ)
  | did (i : Nat) (d : Deed)

inductive Step : Race κ → Event κ → Race κ → Prop where
  | start (r : Race κ) (p : Path) (client : κ) : Step r (.started p client) (r.start p client)
  | finish {r s : Race κ} {i : Nat} {ending : Ending} :
    r.finish? i ending = some s → Step r (.did i (.back ending)) s
  | report {r s : Race κ} {i : Nat} {entry : Option Entry} :
    r.report? i = some (s, entry) → Step r (.did i (.reported entry)) s
  | expire {r s : Race κ} {i : Nat} : r.expire? i = some s → Step r (.did i .expired) s
  | look {r s : Race κ} {now i : Nat} {stuck : Bool} :
    r.look? now i = some (s, stuck) → Step r (.did i (.looked now stuck)) s
  | receive {r s : Race κ} {i : Nat} {answer : Stat.Answer} :
    r.receive? i = some (s, answer) → Step r (.did i (.received answer)) s

inductive Run : Race κ → List (Event κ) → Race κ → Prop where
  | refl (r : Race κ) : Run r [] r
  | step {r s t : Race κ} {es : List (Event κ)} {e : Event κ} :
    Run r es s → Step s e t → Run r (es ++ [e]) t

def callsOn (r : Race κ) (p : Path) : Nat :=
  r.calls.countP fun c => c.path.same p

end Race

end MountProbe.Stuck
