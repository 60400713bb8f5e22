import MountProbe.FileTree.Change
import MountProbe.Journal.Entry
import MountProbe.Settings.Basic

/-! Writing the activity log. Lines go through a buffer to a file that is renamed when it grows
too large. When the file fails, the log goes to a second file, then to the error output; nothing
else fails because the log does. -/
namespace MountProbe.Journal

structure Config where
  path : Path
  fallback : Option Path
  maxSizeBytes : Nat
  maxRotatedFiles : Nat
  fsyncSecs : Nat
deriving DecidableEq, Inhabited, Repr

def Config.ofSettings (s : Settings) : Config where
  path := s.paths.jsonlLog
  fallback := some (Path.ofString "/dev/shm/mountguard.jsonl")
  maxSizeBytes := s.logging.maxSizeBytes
  maxRotatedFiles := s.logging.maxRotatedFiles
  fsyncSecs := 10

inductive Level where
  | normal
  | fallback
  | stderr
  | discard
deriving DecidableEq, Inhabited, Repr

def Level.name : Level → String
  | normal => "normal"
  | fallback => "fallback"
  | stderr => "stderr"
  | discard => "discard"

def Level.usesFile : Level → Bool
  | normal | fallback => true
  | stderr | discard => false

/-- An open file with the lines that are not yet written to it, latest first. -/
structure Sink where
  file : NodeId
  waiting : List Bytes
  waitingSize : Nat
deriving DecidableEq, Inhabited, Repr

def bufferSize : Nat := 65536

/-- What the log touches besides itself: the files, and the lines on the error output. -/
structure Scene where
  tree : FileTree
  errors : String
deriving Inhabited

def Scene.complain (s : Scene) (text : String) : Scene :=
  { s with errors := s.errors ++ text }

/-- What has come of an attempt to write: whether it is done, and what is left of the refusals to
come. -/
structure Attempt where
  scene : Scene
  refusals : List Bool
  sink : Sink
  done : Bool
deriving Inhabited

namespace Sink

def bytes (k : Sink) : Bytes :=
  k.waiting.reverse.flatten

/-- One write to the file, which takes all of the bytes or none. The system may refuse it, whatever
the file is; otherwise it goes as the file lets it. -/
def write (s : Scene) (refusals : List Bool) (k : Sink) (bytes : Bytes) : Attempt :=
  match refusals with
  | true :: rest => ⟨s, rest, k, false⟩
  | others =>
    match s.tree.append k.file bytes with
    | .ok tree => ⟨{ s with tree }, others.tail, k, true⟩
    | .error _ => ⟨s, others.tail, k, false⟩

def emptied (k : Sink) : Sink :=
  { k with waiting := [], waitingSize := 0 }

/-- Writes what waits. If that fails it goes on waiting. -/
def flush (s : Scene) (refusals : List Bool) (k : Sink) : Attempt :=
  if k.waiting.isEmpty then ⟨s, refusals, k, true⟩
  else
    let a := k.write s refusals k.bytes
    if a.done then { a with sink := k.emptied } else a

def hold (k : Sink) (line : Bytes) : Sink :=
  { k with waiting := line :: k.waiting, waitingSize := k.waitingSize + line.length }

def makeRoom (s : Scene) (refusals : List Bool) (k : Sink) (size : Nat) : Attempt :=
  if bufferSize - k.waitingSize < size then k.flush s refusals else ⟨s, refusals, k, true⟩

/-- Takes a line. It waits if there is room for it; otherwise what waits is written first, and a
line as long as the buffer is written itself. -/
def put (s : Scene) (refusals : List Bool) (k : Sink) (line : Bytes) : Attempt :=
  if line.length < bufferSize - k.waitingSize then ⟨s, refusals, k.hold line, true⟩
  else
    let a := k.makeRoom s refusals line.length
    if !a.done then a
    else if line.length < bufferSize then { a with sink := a.sink.hold line }
    else a.sink.write a.scene a.refusals line

end Sink

structure Writer where
  config : Config
  sink : Option Sink
  level : Level
  /-- The size of the file with what waits for it. -/
  bytesWritten : Nat
  lastSync : Nat
  /-- Whether the system refuses the writes to come, one after the other; it refuses none after
  these. -/
  refusals : List Bool
deriving Inhabited

def openAppend (s : Scene) (p : Path) : Scene × Option (NodeId × Nat) :=
  let (tree, made) :=
    match p.parent? with
    | none => (s.tree, Except.ok ())
    | some above => s.tree.makeAll above
  let s := { s with tree }
  match made with
  | .error _ => (s, none)
  | .ok () =>
    match tree.openFile p with
    | .error _ => (s, none)
    | .ok (tree, i) => ({ s with tree }, some (i, tree.length i))

def rotatedName (base : Path) (index : Nat) : Path :=
  base.append ("." ++ toString index)

namespace Writer

def openFallback (s : Scene) (w : Writer) : Scene × Writer :=
  match w.config.fallback with
  | none =>
    (s.complain "[MG-JSONL] primary path failed and no fallback configured, using stderr\n",
      { w with level := .stderr })
  | some p =>
    match openAppend s p with
    | (s, some (file, size)) =>
      (s.complain ("[MG-JSONL] primary path failed, using fallback: " ++ p.display ++ "\n"),
        { w with sink := some ⟨file, [], 0⟩, level := .fallback, bytesWritten := size })
    | (s, none) =>
      (s.complain "[MG-JSONL] both primary and fallback paths failed, using stderr\n",
        { w with level := .stderr })

def start (s : Scene) (config : Config) (now : Nat) (refusals : List Bool := []) :
    Scene × Writer :=
  let w : Writer :=
    { config, sink := none, level := .discard, bytesWritten := 0, lastSync := now, refusals }
  match openAppend s config.path with
  | (s, some (file, size)) =>
    (s, { w with sink := some ⟨file, [], 0⟩, level := .normal, bytesWritten := size })
  | (s, none) => w.openFallback s

/-- Closes the file. What waits is tried once more, and is lost if that fails. -/
def closeSink (s : Scene) (w : Writer) : Scene × Writer :=
  match w.sink with
  | none => (s, w)
  | some k =>
    let a := k.flush s w.refusals
    (a.scene, { w with sink := none, refusals := a.refusals })

/-- Falls back by one level, or two if the second file fails too. -/
def degrade (s : Scene) (w : Writer) : Scene × Writer :=
  let (s, w) := w.closeSink s
  match w.level with
  | .normal => w.openFallback s
  | .fallback =>
    (s.complain "[MG-JSONL] fallback write failed, using stderr\n", { w with level := .stderr })
  | .stderr => (s, { w with level := .discard })
  | .discard => (s, w)

def flush (s : Scene) (w : Writer) : Scene × Writer :=
  match w.sink with
  | none => (s, w)
  | some k =>
    let a := k.flush s w.refusals
    (a.scene, { w with sink := some a.sink, refusals := a.refusals })

def sync (s : Scene) (w : Writer) (now : Nat) : Scene × Writer :=
  match w.sink with
  | none => (s, w)
  | some _ =>
    let (s, w) := w.flush s
    (s, { w with lastSync := now })

def shift (base : Path) : Nat → FileTree → FileTree
  | 0, t => t
  | i + 1, t =>
    let t :=
      match t.rename (rotatedName base (i + 1)) (rotatedName base (i + 2)) with
      | .ok t' => t'
      | .error _ => t
    shift base i t

/-- Makes way for a new file: older files are renamed, and so is the current one, or it is removed
if none are kept. What cannot be renamed stays. -/
def makeWay (base : Path) (kept : Nat) (t : FileTree) : FileTree :=
  let t := shift base (kept - 1) t
  let done := if kept = 0 then t.remove base else t.rename base (rotatedName base 1)
  match done with
  | .ok t' => t'
  | .error _ => t

def base? (w : Writer) : Option Path :=
  match w.level with
  | .normal => some w.config.path
  | .fallback => w.config.fallback
  | _ => none

def rotate (s : Scene) (w : Writer) : Scene × Writer :=
  let (s, w) := w.flush s
  let (s, w) := w.closeSink s
  match w.base? with
  | none => (s, w)
  | some base =>
    let s := { s with tree := makeWay base w.config.maxRotatedFiles s.tree }
    match openAppend s base with
    | (s, some (file, _)) => (s, { w with sink := some ⟨file, [], 0⟩, bytesWritten := 0 })
    | (s, none) => w.degrade s

def isFull (w : Writer) (size : Nat) : Bool :=
  w.config.maxSizeBytes < w.bytesWritten + size && w.level.usesFile

def writeLine : Nat → Scene → Writer → Nat → Bytes → Scene × Writer
  | 0, s, w, _, _ => (s, w)
  | tries + 1, s, w, now, line =>
    let (s, w) := if w.isFull line.length then w.rotate s else (s, w)
    match w.level with
    | .discard => (s, w)
    | .stderr => (s.complain ("[MG-JSONL] " ++ line.lossy), w)
    | _ =>
      match w.sink with
      | none =>
        let (s, w) := w.degrade s
        writeLine tries s w now line
      | some k =>
        let a := k.put s w.refusals line
        let w := { w with sink := some a.sink, refusals := a.refusals }
        if a.done then
          let w := { w with bytesWritten := w.bytesWritten + line.length }
          if w.config.fsyncSecs ≤ now - w.lastSync then w.sync a.scene now else (a.scene, w)
        else
          let (s, w) := w.degrade a.scene
          writeLine tries s w now line

/-- Writes an entry. There are two levels to fall back to. -/
def write (s : Scene) (w : Writer) (now : Nat) (e : Entry) : Scene × Writer :=
  writeLine 3 s w now (Text.utf8 e.line)

end Writer

end MountProbe.Journal
