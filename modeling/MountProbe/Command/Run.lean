import MountProbe.Command.Grammar
import MountProbe.Command.Table
import MountProbe.Mount.Source
import MountProbe.Watch.Loop

namespace MountProbe.Command

inductive Fault where
  | user (message : String)
  | runtime (message : String)
  | unprintable (message : String)
deriving DecidableEq, Inhabited, Repr

namespace Fault

def exitCode : Fault → Nat
  | user _ => 1
  | runtime _ => 2
  | unprintable _ => 3

def message : Fault → String
  | user message => message
  | runtime message => message
  | unprintable message => "failed to serialize output: " ++ message

def ofFailure (f : Failure) : Fault :=
  match f with
  | .invalidConfig _ | .missingConfig _ | .configParse _ _ => .user f.message
  | _ => .runtime f.message

def ofPrinting (f : Failure) : Fault :=
  match f with
  | .serialization _ details => .unprintable details
  | other => .unprintable other.message

end Fault

structure Terminal where
  isTerminal : Bool
  colors : Bool
deriving DecidableEq, Inhabited, Repr

structure Setting where
  terminal : Terminal
  env : Settings.Environment
  system : Stat.System
  /-- Calls on the path do not come back. -/
  hangs : Path → Bool
  /-- The time in milliseconds since the start of 1970. -/
  epochMs : Nat
  /-- What completes command lines in a shell. -/
  completions : Shell → String

def Setting.host (s : Setting) (settings : Settings) : Host where
  table := fun tree =>
    (Mount.Source.mk settings.paths.procPath ⟨settings.paths.rootfsPath⟩).mounts tree.read
  conduct := fun p =>
    match Stat.ask ⟨settings.paths.rootfsPath⟩ s.system p with
    | (answer, none) => .answers answer
    | (answer, some target) => if s.hangs target then .hangs answer else .answers answer

def Setting.asked (s : Setting) (settings : Settings) (w : World) : List Path :=
  w.timetable.traffic.race.calls.filterMap fun c =>
    (Stat.ask ⟨settings.paths.rootfsPath⟩ s.system c.path).2

inductive OutputMode where
  | human
  | json
deriving DecidableEq, Inhabited, Repr

def lower (s : String) : String :=
  String.ofList (s.toList.map Char.toLower)

/-- How to write: as the command line says, else as the environment says, else by who reads. -/
def outputMode (inv : Invocation) (s : Setting) : OutputMode :=
  let usual : OutputMode := if s.terminal.isTerminal then .human else .json
  if inv.json then .json
  else
    match (s.env "MOUNTGUARD_OUTPUT_FORMAT").bind Bytes.text? with
    | none => usual
    | some asked =>
      let word := lower (String.ofList (Text.trim asked.toList))
      if word = "json" then .json else if word = "human" then .human else usual

def usesColors (inv : Invocation) (s : Setting) : Bool :=
  s.terminal.colors && !inv.noColor

/-- Writes structured output on one line, the fields of objects in the order of their names. -/
def printJson (w : World) (v : Json) : World :=
  w.print (v.sorted.toLine ++ "\n")

def settingsOf [Patterns] (inv : Invocation) (s : Setting) (w : World) : Except Fault Settings :=
  match Settings.load inv.config w.tree.lookup s.env with
  | .ok settings => .ok settings
  | .error f => .error (.ofFailure f)

def collectorOf [Patterns] (settings : Settings) : Except Fault Collector :=
  match Collector.ofSettings settings.collector false with
  | .ok c => .ok c
  | .error f => .error (.ofFailure f)

def inOrder (records : List Stat.Record) : List Stat.Record :=
  records.mergeSort fun a b => a.mountPoint.compareByComponents b.mountPoint != .gt

def spanJson (micros : Nat) : Json :=
  .object [("secs", .whole (micros / 1000000)), ("nanos", .whole (micros % 1000000 * 1000))]

def entryJson (now : Nat) (e : Stuck.Entry) : Except Failure Json :=
  (Mount.Label.pathJson e.path).map fun p =>
    .object [("mount_point", p), ("stuck_for", spanJson (now - e.since))]

def scrapeJson (settings : Settings) (c : Collector) (w : World) (records : List Stat.Record) :
    Except Failure Json := do
  let items ← (inOrder records).mapM Stat.Record.toJson
  let stuck ← w.timetable.traffic.race.registry.sorted.mapM (entryJson w.timetable.now)
  return .object [("command", .text "scrape"),
    ("mount_timeout_ms", .whole settings.collector.mountTimeoutMs),
    ("workers", .whole c.workers), ("records", .list items), ("stuck", .list stuck)]

def runScrape [Patterns] (inv : Invocation) (s : Setting) (table : Bool) (w : World) :
    World × Except Fault Unit :=
  let prepared := do
    let settings ← settingsOf inv s w
    return (settings, ← collectorOf settings)
  match prepared with
  | .error fault => (w, .error fault)
  | .ok (settings, c) =>
    match w.scrape (s.host settings) c with
    | (w, .error f) => (w, .error (.ofFailure f))
    | (w, .ok records) =>
      if inv.json then
        match scrapeJson settings c w records with
        | .ok v => (printJson w v, .ok ())
        | .error f => (w, .error (.ofPrinting f))
      else if table then
        (w.print (recordTable (usesColors inv s) inv.verbose (inOrder records)), .ok ())
      else (w.print (Gauge.ofRecords records).text, .ok ())

def mountJson (isStuck : Bool) (m : Mount.Label) (v : Verdict) : Json :=
  .object [("mount_point", .text m.mountPointText), ("device", .text m.device),
    ("fs_type", .text m.fsType), ("major", .text m.major), ("minor", .text m.minor),
    ("read_only", .bool m.isReadOnly), ("verdict", .text v.name), ("stuck", .bool isStuck)]

def runMounts [Patterns] (inv : Invocation) (s : Setting) (w : World) :
    World × Except Fault Unit :=
  let prepared := do
    let settings ← settingsOf inv s w
    return (settings, ← collectorOf settings)
  match prepared with
  | .error fault => (w, .error fault)
  | .ok (settings, c) =>
    match w.mounts (s.host settings) with
    | (w, .error f) => (w, .error (.ofFailure f))
    | (w, .ok mounts) =>
      let isStuck (m : Mount.Label) : Bool :=
        w.timetable.traffic.race.registry.isStuck m.mountPoint
      let verdicts := c.verdicts mounts
      match outputMode inv s with
      | .json =>
        let items := verdicts.map fun (m, v) => mountJson (isStuck m) m v
        (printJson w (.object [("command", .text "mounts"), ("mounts", .list items)]), .ok ())
      | .human =>
        let shown := verdicts.filter fun (_, v) => !inv.quiet || v = .accepted
        let rows := shown.map fun (m, v) =>
          mountLines (usesColors inv s) inv.verbose (isStuck m) m v
        (w.print (mountRow "MOUNTPOINT" "DEVICE" "FSTYPE" "DEV" "VERDICT" ++ String.join rows),
          .ok ())

def runConfigPath (inv : Invocation) (s : Setting) (w : World) : World :=
  let p := inv.config.getD Settings.usual.paths.configFile
  let isThere := w.tree.holds p
  match outputMode inv s with
  | .human =>
    w.print (p.display ++ "\n" ++
      if isThere then "" else "  (file does not exist; defaults will be used)\n")
  | .json =>
    printJson w (.object [("command", .text "config path"), ("path", .text p.display),
      ("exists", .bool isThere)])

def runConfigShow [Patterns] (inv : Invocation) (s : Setting) (w : World) :
    World × Except Fault Unit :=
  match settingsOf inv s w with
  | .error fault => (w, .error fault)
  | .ok settings =>
    match outputMode inv s with
    | .human =>
      match settings.toDocument with
      | .ok text => (w.print (text ++ "\n"), .ok ())
      | .error fault => (w, .error (.runtime ("serialize config: " ++ fault.message)))
    | .json =>
      match settings.toJson with
      | .ok v =>
        (printJson w (.object [("command", .text "config show"), ("config", v)]), .ok ())
      | .error f => (w, .error (.ofPrinting f))

def sayValid (inv : Invocation) (s : Setting) (settings : Settings) (hash : String) (w : World) :
    World :=
  let p := settings.paths.configFile
  match outputMode inv s with
  | .human =>
    if inv.quiet then w
    else
      w.print ("Configuration is valid.\n  Source: " ++ p.display ++ "\n  Hash: " ++ hash ++ "\n")
  | .json =>
    printJson w (.object [("command", .text "config validate"), ("valid", .bool true),
      ("path", .text p.display), ("hash", .text hash)])

def sayInvalid (inv : Invocation) (s : Setting) (f : Failure) (w : World) : World :=
  match outputMode inv s with
  | .human => w.complain ("Configuration is INVALID: " ++ f.message ++ "\n")
  | .json =>
    printJson w (.object [("command", .text "config validate"), ("valid", .bool false),
      ("error", .text f.message), ("code", .text f.code)])

def runConfigValidate [Patterns] (inv : Invocation) (s : Setting) (w : World) :
    World × Except Fault Unit :=
  match Settings.load inv.config w.tree.lookup s.env with
  | .error f => (sayInvalid inv s f w, .error (.user ("invalid config: " ++ f.message)))
  | .ok settings =>
    match settings.fingerprint with
    | .error f => (w, .error (.runtime f.message))
    | .ok hash => (sayValid inv s settings hash w, .ok ())

inductive Progress where
  | ended (world : World) (exitCode : Nat)
  /-- A watch has begun; it is told at its end how many scrapes it made, unless it is quiet. -/
  | watching (watch : Watch) (quiet : Bool)

def ending (w : World) : Except Fault Unit → World × Nat
  | .ok () => (w, 0)
  | .error fault => (w.complain ("mountguard: " ++ fault.message ++ "\n"), fault.exitCode)

def Progress.ofRun (r : World × Except Fault Unit) : Progress :=
  let (w, exitCode) := ending r.1 r.2
  .ended w exitCode

def startWatch [Patterns] (inv : Invocation) (s : Setting) (request : WatchRequest) (w : World) :
    Progress :=
  match settingsOf inv s w with
  | .error fault => .ofRun (w, .error fault)
  | .ok settings =>
    let logging := { settings.logging with verbose := settings.logging.verbose || inv.verbose }
    let options : Watch.Options := ⟨request.intervalMs, request.output, request.count⟩
    match Watch.init w s.epochMs { settings with logging } options with
    | (w, .error f) => .ofRun (w, .error (.ofFailure f))
    | (_, .ok watch) => .watching watch.begin inv.quiet

def endWatch (w : Watch) (quiet : Bool) : World × Nat :=
  match w.result? with
  | some (.error f) => ending w.world (.error (.ofFailure f))
  | _ =>
    let text := "mountguard: " ++ toString w.scrapes ++ " scrapes completed\n"
    (if quiet then w.world else w.world.complain text, 0)

def start [Patterns] (inv : Invocation) (s : Setting) (w : World) : Progress :=
  match inv.task with
  | .scrape table => .ofRun (runScrape inv s table w)
  | .mounts => .ofRun (runMounts inv s w)
  | .watch request => startWatch inv s request w
  | .configPath => .ofRun (runConfigPath inv s w, .ok ())
  | .configShow => .ofRun (runConfigShow inv s w)
  | .configValidate => .ofRun (runConfigValidate inv s w)
  | .completions shell => .ofRun (w.print (s.completions shell), .ok ())

end MountProbe.Command
