import MountProbe.Journal.Stamp
import MountProbe.Journal.Writer

/-! The logger: events wait in a queue of limited length, so that a slow disk never holds up a
scrape, and are written in the order in which they came. Events that find the queue full are
counted, and the count is written with the next event. -/
namespace MountProbe.Journal

structure LoggerConfig where
  journal : Config
  capacity : Nat
  verbose : Bool
deriving DecidableEq, Inhabited, Repr

def LoggerConfig.ofSettings (s : Settings) : LoggerConfig where
  journal := Config.ofSettings s
  capacity := 1024
  verbose := s.logging.verbose

/-- The events that wait, in order, and how many found no room. -/
structure Queue where
  capacity : Nat
  least : Severity
  waiting : List Event
  dropped : Nat
deriving Inhabited

namespace Queue

def empty (capacity : Nat) (verbose : Bool) : Queue where
  capacity := max capacity 1
  least := if verbose then .debug else .info
  waiting := []
  dropped := 0

def takes (q : Queue) (e : Event) : Bool :=
  q.least.rank ≤ e.severity.rank

/-- Puts an event at the end. One below the least severity is ignored; one without room is
counted. -/
def send (q : Queue) (e : Event) : Queue :=
  if !q.takes e then q
  else if q.waiting.length < q.capacity then { q with waiting := q.waiting ++ [e] }
  else { q with dropped := q.dropped + 1 }

/-- Takes the first event, with the number of those that found no room before. -/
def receive? (q : Queue) : Option (Nat × Event × Queue) :=
  match q.waiting with
  | [] => none
  | e :: rest => some (q.dropped, e, { q with waiting := rest, dropped := 0 })

end Queue

def droppedEntry (time : String) (n : Nat) : Entry where
  time := time
  kind := .error
  severity := .warning
  details := some (toString n ++ " log events dropped due to back-pressure")

/-- The entries that an event leads to, and whether the log goes on. -/
def entriesFor (time : String) (dropped : Nat) (e : Event) : List Entry × Bool :=
  let before := if 0 < dropped then [droppedEntry time dropped] else []
  match e.entry? time with
  | some entry => (before ++ [entry], true)
  | none => (before, false)

def writeAll (now : Nat) : Scene → Writer → List Entry → Scene × Writer
  | s, w, [] => (s, w)
  | s, w, e :: rest =>
    let (s, w) := w.write s now e
    writeAll now s w rest

def drain (time : String) : Nat → List Event → List Entry
  | _, [] => []
  | dropped, e :: rest =>
    match entriesFor time dropped e with
    | (entries, true) => entries ++ drain time 0 rest
    | (entries, false) => entries

structure Logger where
  queue : Queue
  writer : Writer
deriving Inhabited

namespace Logger

def start (s : Scene) (c : LoggerConfig) (ms : Nat) : Scene × Logger :=
  let (s, writer) := Writer.start s c.journal (ms / 1000)
  (s, ⟨Queue.empty c.capacity c.verbose, writer⟩)

def record (s : Scene) (l : Logger) (ms : Nat) (e : Event) : Scene × Logger :=
  let queue := l.queue.send e
  match queue.receive? with
  | none => (s, { l with queue })
  | some (dropped, e, queue) =>
    let (s, writer) := writeAll (ms / 1000) s l.writer (entriesFor (stamp ms) dropped e).1
    (s, ⟨queue, writer⟩)

def recordAll (s : Scene) (l : Logger) (ms : Nat) (es : List Event) : Scene × Logger :=
  es.foldl (fun (s, l) e => l.record s ms e) (s, l)

def stop (s : Scene) (l : Logger) (ms : Nat) : Scene :=
  let (s, writer) := l.writer.sync s (ms / 1000)
  (writer.closeSink s).1

end Logger

end MountProbe.Journal
