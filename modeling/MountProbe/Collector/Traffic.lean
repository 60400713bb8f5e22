import MountProbe.Collector.Basic
import MountProbe.Pool

/-! Scrapes at work. Each scrape is a cycle: a pool hands the mounts to workers, and every worker
guards one stat call after another. All cycles share one registry of stuck mount points. Calls that
have timed out stay in the system after their cycle has ended. Every order of steps, of any number
of cycles, is possible. -/
namespace MountProbe

open Stuck (Race Outcome Ending)

/-- Who waits for a stat call. -/
structure Client where
  label : Mount.Label
  guard : Guard
  /-- The cycle whose worker waits. -/
  cycle : Option Nat
deriving DecidableEq, Inhabited, Repr

structure Cycle where
  pool : Pool Mount.Label Stat.Record
  /-- The mounts that share the counts of an earlier one. -/
  repeated : List Mount.Label
  guard : Guard
  startedAt : Nat
  /-- What the scrape says, once it is over. -/
  records : Option (List Stat.Record)
deriving Inhabited

def Cycle.start (now : Nat) (c : Collector) (mounts : List Mount.Label) : Cycle :=
  let (first, repeated) := Mount.splitRepeated [] (c.accepted mounts)
  ⟨Pool.start c.workers first, repeated, c.guard, now, none⟩

/-- The cycles and calls on one registry, and the events that they led to, latest first. -/
structure Traffic where
  race : Race Client
  cycles : List Cycle
  events : List Journal.Event
deriving Inhabited

namespace Traffic

def empty : Traffic :=
  ⟨⟨Stuck.Registry.empty, []⟩, [], []⟩

def log (t : Traffic) (g : Guard) (e : Journal.Event) : Traffic :=
  if g.logged then { t with events := e :: t.events } else t

def logAll (t : Traffic) (g : Guard) (es : List Journal.Event) : Traffic :=
  es.foldl (fun t e => t.log g e) t

def tell (t : Traffic) (client : Client) (o : Outcome) : Traffic :=
  match Journal.Event.ofOutcome? client.label client.guard.timeoutMs o with
  | some e => t.log client.guard e
  | none => t

def begin (t : Traffic) (now : Nat) (c : Collector) (mounts : List Mount.Label) : Traffic :=
  let t := t.logAll c.guard (c.ignored mounts)
  { t with cycles := t.cycles ++ [.start now c mounts] }

def withPool (t : Traffic) (i : Nat) (c : Cycle) (pool : Pool Mount.Label Stat.Record) : Traffic :=
  { t with cycles := t.cycles.set i { c with pool } }

/-- The dispatcher of a cycle looks at its next mount: one that is stuck is not asked for. -/
def consider? (t : Traffic) (i : Nat) : Option Traffic := do
  let c ← t.cycles[i]?
  let l ← c.pool.next?
  if t.race.registry.isStuck l.mountPoint then
    let pool ← c.pool.consider (.resolved (Stat.Record.stuck l))
    return (t.withPool i c pool).log c.guard (.skipped l)
  else
    let pool ← c.pool.consider .dispatch
    return t.withPool i c pool

def take? (t : Traffic) (i : Nat) : Option Traffic := do
  let c ← t.cycles[i]?
  let l ← c.pool.handing
  let pool ← c.pool.take
  let t := t.withPool i c pool
  return { t with race := t.race.start l.mountPoint ⟨l, c.guard, some i⟩ }

def call (t : Traffic) (l : Mount.Label) (g : Guard) : Traffic :=
  { t with race := t.race.start l.mountPoint ⟨l, g, none⟩ }

def finish? (t : Traffic) (i : Nat) (ending : Ending) : Option Traffic := do
  return { t with race := ← t.race.finish? i ending }

/-- A call reports; if its mount point was stuck, that is over. -/
def report? (t : Traffic) (now i : Nat) : Option Traffic := do
  let call ← t.race.calls[i]?
  let (race, entry) ← t.race.report? i
  let t := { t with race }
  match entry with
  | none => return t
  | some e =>
    return t.log call.client.guard
      (.mountRecovered call.path.display (Journal.millis 0 ((now - e.since) * 1000)))

def expire? (t : Traffic) (i : Nat) : Option Traffic := do
  return { t with race := ← t.race.expire? i }

def look? (t : Traffic) (now i : Nat) : Option Traffic := do
  let (race, _) ← t.race.look? now i
  return { t with race }

def receive? (t : Traffic) (i : Nat) : Option Traffic := do
  let (race, _) ← t.race.receive? i
  return { t with race }

def handIn? (t : Traffic) (k : Nat) : Option Traffic := do
  let call ← t.race.calls[k]?
  let o ← call.outcome?
  let i ← call.client.cycle
  let c ← t.cycles[i]?
  let pool ← c.pool.finish call.client.label (Stat.Record.ofOutcome call.client.label o)
  return (t.withPool i c pool).tell call.client o

def collect? (t : Traffic) (i : Nat) : Option Traffic := do
  let c ← t.cycles[i]?
  let pool ← c.pool.collect
  return t.withPool i c pool

/-- A cycle ends: mounts that share counts get their records. -/
def close? (t : Traffic) (now i : Nat) : Option Traffic := do
  let c ← t.cycles[i]?
  if c.pool.isDone && c.records.isNone then
    let records := c.pool.results ++ Stat.Record.shared c.pool.results c.repeated
    let t := { t with cycles := t.cycles.set i { c with records := some records } }
    return t.log c.guard
      (.scrapeCompleted records.length t.race.registry.size
        (Journal.millis 0 ((now - c.startedAt) * 1000)))
  else none

def callsOf (t : Traffic) (i : Nat) : List (Stuck.Call Client) :=
  t.race.calls.filter fun c => c.client.cycle = some i

def records? (t : Traffic) (i : Nat) : Option (List Stat.Record) := do
  (← t.cycles[i]?).records

inductive Event where
  | began (now : Nat) (c : Collector) (mounts : List Mount.Label)
  /-- A call is made outside of every cycle. -/
  | called (l : Mount.Label) (g : Guard)
  | considered (i : Nat) (l : Mount.Label) (stuck : Bool)
  | took (i : Nat) (l : Mount.Label)
  | did (k : Nat) (d : Stuck.Race.Deed)
  | handed (i : Nat) (l : Mount.Label) (o : Outcome)
  | collected (i : Nat) (r : Stat.Record)
  | closed (i : Nat) (records : List Stat.Record)
  | noted (e : Journal.Event)

inductive Step : Traffic → Event → Traffic → Prop where
  | begin (t : Traffic) (now : Nat) (c : Collector) (mounts : List Mount.Label) :
    Step t (.began now c mounts) (t.begin now c mounts)
  | call (t : Traffic) (l : Mount.Label) (g : Guard) : Step t (.called l g) (t.call l g)
  | consider {t u : Traffic} {i : Nat} {c : Cycle} {l : Mount.Label} :
    t.cycles[i]? = some c → c.pool.next? = some l → t.consider? i = some u →
      Step t (.considered i l (t.race.registry.isStuck l.mountPoint)) u
  | take {t u : Traffic} {i : Nat} {c : Cycle} {l : Mount.Label} :
    t.cycles[i]? = some c → c.pool.handing = some l → t.take? i = some u → Step t (.took i l) u
  | finish {t u : Traffic} {k : Nat} {ending : Ending} :
    t.finish? k ending = some u → Step t (.did k (.back ending)) u
  | report {t u : Traffic} {now k : Nat} {call : Stuck.Call Client} :
    t.race.calls[k]? = some call → t.report? now k = some u →
      Step t (.did k (.reported (t.race.registry.entry? call.path))) u
  | expire {t u : Traffic} {k : Nat} : t.expire? k = some u → Step t (.did k .expired) u
  | look {t u : Traffic} {now k : Nat} {race : Race Client} {stuck : Bool} :
    t.race.look? now k = some (race, stuck) → t.look? now k = some u →
      Step t (.did k (.looked now stuck)) u
  | receive {t u : Traffic} {k : Nat} {race : Race Client} {answer : Stat.Answer} :
    t.race.receive? k = some (race, answer) → t.receive? k = some u →
      Step t (.did k (.received answer)) u
  | handIn {t u : Traffic} {i k : Nat} {call : Stuck.Call Client} {o : Outcome} :
    t.race.calls[k]? = some call → call.client.cycle = some i → call.outcome? = some o →
      t.handIn? k = some u → Step t (.handed i call.client.label o) u
  | collect {t u : Traffic} {i : Nat} {c : Cycle} {r : Stat.Record} :
    t.cycles[i]? = some c → c.pool.ready.head? = some r → t.collect? i = some u →
      Step t (.collected i r) u
  | close {t u : Traffic} {now i : Nat} {records : List Stat.Record} :
    t.close? now i = some u → u.records? i = some records → Step t (.closed i records) u
  | note (t : Traffic) (g : Guard) (e : Journal.Event) : Step t (.noted e) (t.log g e)

/-- What can come of cycles and calls, and what happens on the way. -/
inductive Run : Traffic → List Event → Traffic → Prop where
  | refl (t : Traffic) : Run t [] t
  | step {t u v : Traffic} {es : List Event} {e : Event} :
    Run t es u → Step u e v → Run t (es ++ [e]) v

end Traffic

end MountProbe
