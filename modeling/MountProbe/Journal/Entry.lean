import MountProbe.Json

namespace MountProbe.Journal

inductive Severity where
  | debug
  | info
  | warning
  | critical
deriving DecidableEq, Inhabited, Repr

def Severity.name : Severity → String
  | debug => "debug"
  | info => "info"
  | warning => "warning"
  | critical => "critical"

def Severity.rank : Severity → Nat
  | debug => 0
  | info => 1
  | warning => 2
  | critical => 3

inductive Kind where
  | collectorStart
  | collectorStop
  | scrapeComplete
  | mountIgnored
  | mountStuck
  | mountSkipped
  | mountRecovered
  | statFailed
  | configReload
  | error
deriving DecidableEq, Inhabited, Repr

def Kind.name : Kind → String
  | collectorStart => "collector_start"
  | collectorStop => "collector_stop"
  | scrapeComplete => "scrape_complete"
  | mountIgnored => "mount_ignored"
  | mountStuck => "mount_stuck"
  | mountSkipped => "mount_skipped"
  | mountRecovered => "mount_recovered"
  | statFailed => "stat_failed"
  | configReload => "config_reload"
  | error => "error"

def Severity.all : List Severity :=
  [debug, info, warning, critical]

def Kind.all : List Kind :=
  [collectorStart, collectorStop, scrapeComplete, mountIgnored, mountStuck, mountSkipped,
    mountRecovered, statFailed, configReload, error]

def Severity.ofName? (s : String) : Option Severity :=
  Severity.all.find? fun x => x.name == s

def Kind.ofName? (s : String) : Option Kind :=
  Kind.all.find? fun x => x.name == s

structure Entry where
  time : String
  kind : Kind
  severity : Severity
  mountPoint : Option String := none
  device : Option String := none
  fsType : Option String := none
  durationMs : Option Nat := none
  records : Option Nat := none
  stuck : Option Nat := none
  ok : Option Bool := none
  errorCode : Option String := none
  errorMessage : Option String := none
  details : Option String := none
deriving DecidableEq, Inhabited, Repr

namespace Entry

def optional {α : Type} (name : String) (value : α → Json) : Option α → List (String × Json)
  | none => []
  | some a => [(name, value a)]

def toJson (e : Entry) : Json :=
  .object ([("ts", .text e.time), ("event", .text e.kind.name),
    ("severity", .text e.severity.name)] ++
    optional "mount_point" .text e.mountPoint ++ optional "device" .text e.device ++
    optional "fs_type" .text e.fsType ++ optional "duration_ms" .whole e.durationMs ++
    optional "records" .whole e.records ++ optional "stuck" .whole e.stuck ++
    optional "ok" .bool e.ok ++ optional "error_code" .text e.errorCode ++
    optional "error_message" .text e.errorMessage ++ optional "details" .text e.details)

def line (e : Entry) : List Char :=
  e.toJson.render ++ ['\n']

end Entry

inductive Event where
  | collectorStarted (version configHash : String)
  | collectorStopped (reason : String) (uptimeSecs : Nat)
  | scrapeCompleted (records stuck durationMs : Nat)
  | mountIgnored (mountPoint fsType reason : String)
  /-- A stat call took too long; its mount is left alone until it returns. -/
  | mountStuck (mountPoint device fsType : String) (timeoutMs : Nat)
  | mountSkipped (mountPoint device fsType : String)
  | mountRecovered (mountPoint : String) (stuckForMs : Nat)
  | statFailed (mountPoint device fsType errorCode errorMessage : String)
  | configReloaded (details : String)
  | error (code message : String)
  | shutdown
deriving DecidableEq, Inhabited, Repr

namespace Event

def severity : Event → Severity
  | mountIgnored _ _ _ => .debug
  | mountStuck _ _ _ _ | statFailed _ _ _ _ _ => .warning
  | error _ _ => .critical
  | _ => .info

/-- The entry for an event at a time; the end of the log has none. -/
def entry? (time : String) (e : Event) : Option Entry :=
  match e with
  | collectorStarted version configHash =>
    some { time, kind := .collectorStart, severity := e.severity, ok := some true
           details := some ("version=" ++ version ++ " config_hash=" ++ configHash) }
  | collectorStopped reason uptimeSecs =>
    some { time, kind := .collectorStop, severity := e.severity, ok := some true
           details := some ("reason=" ++ reason ++ " uptime=" ++ toString uptimeSecs ++ "s") }
  | scrapeCompleted records stuck durationMs =>
    some { time, kind := .scrapeComplete, severity := e.severity, records := some records
           stuck := some stuck, durationMs := some durationMs, ok := some true }
  | mountIgnored mountPoint fsType reason =>
    some { time, kind := .mountIgnored, severity := e.severity, mountPoint := some mountPoint
           fsType := some fsType, details := some reason }
  | mountStuck mountPoint device fsType timeoutMs =>
    some { time, kind := .mountStuck, severity := e.severity, mountPoint := some mountPoint
           device := some device, fsType := some fsType, durationMs := some timeoutMs
           ok := some false }
  | mountSkipped mountPoint device fsType =>
    some { time, kind := .mountSkipped, severity := e.severity, mountPoint := some mountPoint
           device := some device, fsType := some fsType }
  | mountRecovered mountPoint stuckForMs =>
    some { time, kind := .mountRecovered, severity := e.severity, mountPoint := some mountPoint
           durationMs := some stuckForMs, ok := some true }
  | statFailed mountPoint device fsType errorCode errorMessage =>
    some { time, kind := .statFailed, severity := e.severity, mountPoint := some mountPoint
           device := some device, fsType := some fsType, ok := some false
           errorCode := some errorCode, errorMessage := some errorMessage }
  | configReloaded details =>
    some { time, kind := .configReload, severity := e.severity, details := some details
           ok := some true }
  | error code message =>
    some { time, kind := .error, severity := e.severity, errorCode := some code
           errorMessage := some message, ok := some false }
  | shutdown => none

end Event

/-- Whole milliseconds of a time span, at most the largest 64-bit number. -/
def millis (seconds nanos : Nat) : Nat :=
  min (seconds * 1000 + nanos / 1000000) 18446744073709551615

end MountProbe.Journal
