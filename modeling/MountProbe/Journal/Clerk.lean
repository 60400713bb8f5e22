import MountProbe.Journal.Logger

/-! The logger with its threads. Senders put events into a channel of limited length, each on its
own; a clerk takes them out and writes them. An event that finds the channel full is refused, and
counted in a step of its own; the clerk takes the count with each event that it has received. Which
thread goes next is open. -/
namespace MountProbe.Journal

inductive Sender where
  | idle
  /-- Its event found the channel full, which it has not counted yet. -/
  | refused (e : Event)
  /-- It waits for room, to tell the clerk to stop. -/
  | asking
  | gone
deriving DecidableEq, Inhabited, Repr

/-- An event with the sender that it is from. -/
abbrev Parcel := Nat × Event

inductive Clerk where
  | listening
  /-- It has received an event and not yet taken the count. -/
  | holding (p : Parcel)
  /-- It is about to write that so many events were dropped, and then the event. -/
  | reporting (dropped : Nat) (p : Parcel)
  | recording (p : Parcel)
  /-- It reads no more, after this event or because nobody can send any more. -/
  | closing (last : Option Parcel)
  | gone
deriving DecidableEq, Inhabited, Repr

structure Office where
  capacity : Nat
  least : Severity
  waiting : List Parcel
  dropped : Nat
  senders : List Sender
  clerk : Clerk
  scene : Scene
  writer : Writer
deriving Inhabited

namespace Office

/-- One sender is there at the start; the others are copies of it. -/
def start (s : Scene) (c : LoggerConfig) (ms : Nat) : Office :=
  let begun := Logger.start s c ms
  { capacity := begun.2.queue.capacity, least := begun.2.queue.least, waiting := []
    dropped := begun.2.queue.dropped, senders := [.idle], clerk := .listening, scene := begun.1
    writer := begun.2.writer }

/-- The channel with the count of what it had no room for. -/
def queue (o : Office) : Queue where
  capacity := o.capacity
  least := o.least
  waiting := o.waiting.map Prod.snd
  dropped := o.dropped

def write (o : Office) (ms : Nat) (e : Entry) : Scene × Writer :=
  o.writer.write o.scene (ms / 1000) e

end Office

/-- What one thread does. -/
inductive Act where
  | copied (sender : Nat)
  | left (sender : Nat)
  /-- The event is less severe than what is logged. -/
  | ignored (p : Parcel)
  | accepted (p : Parcel)
  | refused (p : Parcel)
  /-- There is no clerk any more. -/
  | unheard (p : Parcel)
  | counted (sender : Nat)
  | asked (sender : Nat)
  | toldToStop (sender : Nat)
  | askedNobody (sender : Nat)
  | received (p : Parcel)
  | swapped (dropped : Nat)
  | reported (ms : Nat) (dropped : Nat)
  | recorded (ms : Nat) (p : Parcel) (e : Entry)
  | stopped (p : Parcel)
  | ended
  | exited (ms : Nat)
deriving DecidableEq, Repr

namespace Office

/-- One thread does one thing. -/
inductive Step : Office → Act → Office → Prop where
  | copied {o : Office} {i : Nat} {x : Sender} (here : o.senders[i]? = some x) (alive : x ≠ .gone) :
    Step o (.copied i) { o with senders := o.senders ++ [.idle] }
  | left {o : Office} {i : Nat} (idle : o.senders[i]? = some .idle) :
    Step o (.left i) { o with senders := o.senders.set i .gone }
  | ignored {o : Office} {i : Nat} {e : Event} (idle : o.senders[i]? = some .idle)
    (mild : o.queue.takes e = false) : Step o (.ignored (i, e)) o
  | accepted {o : Office} {i : Nat} {e : Event} (idle : o.senders[i]? = some .idle)
    (takes : o.queue.takes e = true) (heard : o.clerk ≠ .gone)
    (room : o.waiting.length < o.capacity) :
    Step o (.accepted (i, e)) { o with waiting := o.waiting ++ [(i, e)] }
  | refused {o : Office} {i : Nat} {e : Event} (idle : o.senders[i]? = some .idle)
    (takes : o.queue.takes e = true) (heard : o.clerk ≠ .gone)
    (full : o.capacity ≤ o.waiting.length) :
    Step o (.refused (i, e)) { o with senders := o.senders.set i (.refused e) }
  | unheard {o : Office} {i : Nat} {e : Event} (idle : o.senders[i]? = some .idle)
    (takes : o.queue.takes e = true) (gone : o.clerk = .gone) : Step o (.unheard (i, e)) o
  | counted {o : Office} {i : Nat} {e : Event} (here : o.senders[i]? = some (.refused e)) :
    Step o (.counted i) { o with dropped := o.dropped + 1, senders := o.senders.set i .idle }
  | asked {o : Office} {i : Nat} (idle : o.senders[i]? = some .idle) :
    Step o (.asked i) { o with senders := o.senders.set i .asking }
  | toldToStop {o : Office} {i : Nat} (asking : o.senders[i]? = some .asking)
    (heard : o.clerk ≠ .gone) (room : o.waiting.length < o.capacity) :
    Step o (.toldToStop i)
      { o with waiting := o.waiting ++ [(i, .shutdown)], senders := o.senders.set i .idle }
  | askedNobody {o : Office} {i : Nat} (asking : o.senders[i]? = some .asking)
    (gone : o.clerk = .gone) :
    Step o (.askedNobody i) { o with senders := o.senders.set i .idle }
  | received {o : Office} {p : Parcel} {rest : List Parcel} (listening : o.clerk = .listening)
    (first : o.waiting = p :: rest) :
    Step o (.received p) { o with waiting := rest, clerk := .holding p }
  | swapped {o : Office} {p : Parcel} (holding : o.clerk = .holding p) :
    Step o (.swapped o.dropped) { o with
      dropped := 0
      clerk := if 0 < o.dropped then .reporting o.dropped p else .recording p }
  | reported {o : Office} {n ms : Nat} {p : Parcel} {scene : Scene} {writer : Writer}
    (reporting : o.clerk = .reporting n p)
    (written : o.write ms (droppedEntry (stamp ms) n) = (scene, writer)) :
    Step o (.reported ms n) { o with clerk := .recording p, scene, writer }
  | recorded {o : Office} {ms : Nat} {p : Parcel} {e : Entry} {scene : Scene} {writer : Writer}
    (recording : o.clerk = .recording p) (entry : Event.entry? (stamp ms) p.2 = some e)
    (written : o.write ms e = (scene, writer)) :
    Step o (.recorded ms p e) { o with clerk := .listening, scene, writer }
  | stopped {o : Office} {p : Parcel} (ms : Nat) (recording : o.clerk = .recording p)
    (no_entry : Event.entry? (stamp ms) p.2 = none) :
    Step o (.stopped p) { o with clerk := .closing (some p) }
  | ended {o : Office} (listening : o.clerk = .listening) (nothing : o.waiting = [])
    (nobody : ∀ x ∈ o.senders, x = .gone) : Step o .ended { o with clerk := .closing none }
  | exited {o : Office} {last : Option Parcel} (ms : Nat) (closing : o.clerk = .closing last) :
    Step o (.exited ms) { o with
      waiting := []
      clerk := .gone
      scene := Logger.stop o.scene ⟨o.queue, o.writer⟩ ms }

inductive Run : Office → List Act → Office → Prop where
  | refl (o : Office) : Run o [] o
  | step {a b d : Office} {es : List Act} {e : Act} :
    Run a es b → Step b e d → Run a (es ++ [e]) d

end Office

end MountProbe.Journal
