import MountProbe.Collector.Timetable
import MountProbe.Gauge.Mounts
import MountProbe.Journal.Logger
import MountProbe.Mount.Table
import MountProbe.Settings.Load
import MountProbe.Settings.Print
import MountProbe.Textfile
import MountProbe.Watch.Signals

/-! The watch: one scrape after another, until it is asked to stop or has made as many as it was
told to. Each step of the loop is a step of its own, because requests may arrive between any two of
them. Mounts that are stuck stay known when the settings are read again. -/
namespace MountProbe

/-- What has been written to the output, and whether the next text fails: after how many of its
bytes, and why. After all of them it is bringing them out that fails. -/
structure Output where
  bytes : Bytes
  fault : Option (Nat × IoFault)
deriving Inhabited

def Output.put (o : Output) (bytes : Bytes) : Output × Except IoFault Unit :=
  match o.fault with
  | none => ({ o with bytes := o.bytes ++ bytes }, .ok ())
  | some (taken, fault) => ({ o with bytes := o.bytes ++ bytes.take taken }, .error fault)

/-- What the program touches besides itself: files, error output, output, and the stat calls that
are in the system. -/
structure World where
  scene : Journal.Scene
  output : Output
  timetable : Timetable
deriving Inhabited

namespace World

def ofTree (t : FileTree) : World :=
  ⟨⟨t, ""⟩, ⟨[], none⟩, .empty⟩

def tree (w : World) : FileTree :=
  w.scene.tree

def complain (w : World) (text : String) : World :=
  { w with scene := w.scene.complain text }

def print (w : World) (text : String) : World :=
  { w with output := { w.output with bytes := w.output.bytes ++ Text.utf8 text.toList } }

def events (w : World) : List Journal.Event :=
  w.timetable.traffic.events.reverse

end World

/-- The system that scrapes look at: its mount table, which may be read from files, and what its
stat calls do. -/
structure Host where
  table : FileTree → Mount.Table.Reading
  conduct : Path → Conduct

namespace World

def mounts (w : World) (host : Host) : World × Except Failure (List Mount.Label) :=
  let r := host.table w.tree
  (w.complain r.warnings, r.mounts)

def scrape (w : World) (host : Host) (c : Collector) : World × Except Failure (List Stat.Record) :=
  match w.mounts host with
  | (w, .error f) => (w, .error f)
  | (w, .ok mounts) =>
    let (timetable, records) := w.timetable.scrape host.conduct c mounts
    ({ w with timetable }, .ok records)

end World

namespace Watch

structure Options where
  intervalMs : Option Nat
  output : Option Path
  maxScrapes : Option Nat
deriving DecidableEq, Inhabited, Repr

inductive Phase where
  | check
  | reload
  /-- It takes the request to scrape; the scrape that follows answers it. -/
  | request
  | scrape
  | count
  /-- It rests until a time, or until a request comes. -/
  | rest (wake : Nat)
  | stopping (result : Except Failure Unit)
  | stopped (result : Except Failure Nat)
deriving Inhabited

end Watch

structure Watch where
  settings : Settings
  options : Watch.Options
  collector : Collector
  signals : Watch.Signals
  logger : Option Journal.Logger
  /-- How many events have been handed to the logger. -/
  told : Nat
  scrapes : Nat
  phase : Watch.Phase
  world : World
  /-- The time at which the watch began, in milliseconds since the start of 1970. -/
  epochMs : Nat
deriving Inhabited

namespace Watch

def version : String := "0.3.1"

/-- The watch rests in slices of so many microseconds, so that it sees requests soon. -/
def slice : Nat := 50000

def now (w : Watch) : Nat :=
  w.world.timetable.now

def clockMs (w : Watch) : Nat :=
  w.epochMs + w.now / ticksPerMs

def intervalMs (w : Watch) : Nat :=
  w.options.intervalMs.getD w.settings.watch.scrapeIntervalMs

def outputFile? (w : Watch) : Option Path :=
  match w.options.output with
  | some p => some p
  | none => w.settings.watch.outputFile

def registry (w : Watch) : Stuck.Registry :=
  w.world.timetable.traffic.race.registry

def complain (w : Watch) (text : String) : Watch :=
  { w with world := w.world.complain text }

def tell (w : Watch) : Watch :=
  match w.logger with
  | none => w
  | some l =>
    let events := w.world.events
    let (scene, l) := l.recordAll w.world.scene w.clockMs (events.drop w.told)
    { w with world := { w.world with scene }, logger := some l, told := events.length }

def log (w : Watch) (e : Journal.Event) : Watch :=
  let timetable := w.world.timetable
  let traffic := timetable.traffic.log ⟨0, w.logger.isSome⟩ e
  { w with world := { w.world with timetable := { timetable with traffic } } }.tell

/-- The fingerprint of settings; settings that cannot be written have an empty one. -/
def fingerprint (s : Settings) : String :=
  s.fingerprint.toOption.getD ""

/-- A watch before its first step. Its log is the one that the settings name at this time. -/
def init [Patterns] (world : World) (epochMs : Nat) (settings : Settings) (options : Options) :
    World × Except Failure Watch :=
  let (world, logger) :=
    if settings.logging.jsonlEnabled then
      let (scene, l) := Journal.Logger.start world.scene (.ofSettings settings) epochMs
      ({ world with scene }, some l)
    else (world, none)
  match Collector.ofSettings settings.collector logger.isSome with
  | .error f => (world, .error f)
  | .ok collector =>
    (world, .ok
      { settings, options, collector, signals := .quiet, logger, told := 0, scrapes := 0,
        phase := .check, world, epochMs })

def begin (w : Watch) : Watch :=
  w.log (.collectorStarted version (fingerprint w.settings))

def fail (w : Watch) (before : String) (f : Failure) : Watch :=
  (w.complain ("[MG-WATCH] " ++ before ++ f.message ++ "\n")).log
    (.error f.code (before ++ f.message))

/-- Reads the settings again. Settings that cannot be used change nothing, and neither do settings
with the same fingerprint. -/
def reload [Patterns] (env : Settings.Environment) (w : Watch) : Watch :=
  let w := w.complain "[MG-WATCH] config reload requested (SIGHUP)\n"
  match Settings.load (some w.settings.paths.configFile) w.world.tree.lookup env with
  | .error f => w.fail "config reload failed: " f
  | .ok settings =>
    let before := fingerprint w.settings
    let after := fingerprint settings
    if before = after then w.complain "[MG-WATCH] config unchanged, skipping reload\n"
    else
      let moved :=
        !settings.paths.procPath.same w.settings.paths.procPath ||
          !settings.paths.rootfsPath.same w.settings.paths.rootfsPath
      let w :=
        if moved then
          w.complain "[MG-WATCH] proc/rootfs path changes take effect after restart\n"
        else w
      match Collector.ofSettings settings.collector w.logger.isSome with
      | .error f => w.fail "config reload rejected: " f
      | .ok collector =>
        let w := { w with collector }.log
          (.configReloaded ("config hash: " ++ before ++ " -> " ++ after))
        { w with settings }.complain "[MG-WATCH] config reloaded successfully\n"

/-- Publishes the text of a scrape, in the file or on the output. Only an output that fails ends the
watch. -/
def publish (w : Watch) (text : String) : Watch :=
  match w.outputFile? with
  | some p =>
    let (tree, result) := Textfile.write w.world.tree p (Text.utf8 text.toList)
    let w := { w with world := { w.world with scene := { w.world.scene with tree } } }
    match result with
    | .ok () => { w with phase := .count }
    | .error f => { w.fail "" f with phase := .count }
  | none =>
    let (output, result) := w.world.output.put (Text.utf8 text.toList)
    let w := { w with world := { w.world with output } }
    match result with
    | .ok () => { w with phase := .count }
    | .error fault => { w with phase := .stopping (.error (.io (Path.ofString "<stdout>") fault)) }

def scrapeOnce (host : Host) (w : Watch) : Watch :=
  match w.world.scrape host w.collector with
  | (world, .error f) => { { w with world }.fail "scrape failed: " f with phase := .count }
  | (world, .ok records) => { w with world }.tell.publish (Gauge.ofRecords records).text

def countScrape (w : Watch) : Watch :=
  let w := { w with scrapes := w.scrapes + 1 }
  match w.options.maxScrapes with
  | some most =>
    if most ≤ w.scrapes then { w with phase := .stopping (.ok ()) }
    else { w with phase := .rest (w.now + w.intervalMs * ticksPerMs) }
  | none => { w with phase := .rest (w.now + w.intervalMs * ticksPerMs) }

def restSlice (w : Watch) (wake : Nat) : Watch :=
  if w.signals.isPending || wake ≤ w.now then { w with phase := .check }
  else
    let time := min wake (w.now + slice)
    { w with world := { w.world with timetable := w.world.timetable.sleepUntil time } }.tell

def finish (w : Watch) (result : Except Failure Unit) : Watch :=
  let seconds := w.now / 1000000
  let w := w.log (.collectorStopped "clean shutdown" seconds)
  let w :=
    match w.logger with
    | none => w
    | some l =>
      { w with
        logger := none
        world := { w.world with scene := l.stop w.world.scene w.clockMs } }
  let w := w.complain ("[MG-WATCH] stopped after " ++ toString w.scrapes ++ " scrapes (uptime=" ++
    toString seconds ++ "s)\n")
  { w with phase := .stopped (result.map fun () => w.scrapes) }

def step [Patterns] (host : Host) (env : Settings.Environment) (w : Watch) : Watch :=
  match w.phase with
  | .check =>
    if w.signals.shutdown then
      { w.complain "[MG-WATCH] shutdown requested\n" with phase := .stopping (.ok ()) }
    else { w with phase := .reload }
  | .reload =>
    if w.signals.reload then
      { { w with signals := w.signals.withoutReload }.reload env with phase := .request }
    else { w with phase := .request }
  | .request => { w with signals := w.signals.withoutScrape, phase := .scrape }
  | .scrape => w.scrapeOnce host
  | .count => w.countScrape
  | .rest wake => w.restSlice wake
  | .stopping result => w.finish result
  | .stopped _ => w

def raise (w : Watch) (r : Request) : Watch :=
  { w with signals := w.signals.raise r }

def result? (w : Watch) : Option (Except Failure Nat) :=
  match w.phase with
  | .stopped result => some result
  | _ => none

end Watch

end MountProbe
