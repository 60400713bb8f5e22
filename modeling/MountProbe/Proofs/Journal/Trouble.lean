import MountProbe.Proofs.Journal.Orders

/-! A writer in trouble. The system may refuse to open a file and to rename or remove a name, whatever
the tree is like, as it may refuse writes. Notes are kept of what the writer does then; where nothing
is refused it is the writer as it is. -/
namespace MountProbe.Journal

/-- What the system refuses, one thing after another. -/
structure Trouble where
  /-- Which files are not opened, and what has become of the tree by then. -/
  openings : List (Option FileTree)
  /-- Which names are neither renamed nor removed. -/
  movings : List Bool

def Trouble.nothing : Trouble :=
  ⟨[], []⟩

/-- Where a line goes. -/
inductive Outlet where
  /-- To the file that was opened under a name. -/
  | file (p : Path)
  | errors
deriving DecidableEq

/-- A writer at work, and what is noted of it. -/
structure Bench where
  scene : Scene
  writer : Writer
  trouble : Trouble
  /-- What its file was opened as. -/
  outlet : Outlet
  /-- The levels that it came to, in order. -/
  levels : List Level
  /-- Where lines went, in order. -/
  handed : List Outlet
  /-- What the file held already when it was begun anew. -/
  surplus : Nat
  /-- Whether a file could not be begun anew. -/
  missed : Bool

namespace Bench

def openAppend (b : Bench) (p : Path) : Bench × Option (NodeId × Nat) :=
  match b.trouble.openings with
  | some tree :: rest =>
    ({ b with scene.tree := tree, trouble.openings := rest }, none)
  | others =>
    ({ b with scene := (Journal.openAppend b.scene p).1, trouble.openings := others.tail },
      (Journal.openAppend b.scene p).2)

def say (b : Bench) (text : String) : Bench :=
  { b with scene := b.scene.complain text }

def settle (b : Bench) (level : Level) : Bench :=
  { b with writer.level := level, levels := b.levels ++ [level] }

/-- A file has been opened that holds so many bytes. -/
def takeUp (b : Bench) (p : Path) (level : Level) (file : NodeId) (size : Nat) : Bench :=
  { b with
    writer.sink := some ⟨file, [], 0⟩
    writer.level := level
    writer.bytesWritten := size
    outlet := .file p
    levels := b.levels ++ [level]
    surplus := 0 }

/-- What the writer does without opening or renaming anything. -/
def does (b : Bench) (f : Scene → Writer → Scene × Writer) : Bench :=
  { b with scene := (f b.scene b.writer).1, writer := (f b.scene b.writer).2 }

def openFallback (b : Bench) : Bench :=
  match b.writer.config.fallback with
  | none =>
    (b.say "[MG-JSONL] primary path failed and no fallback configured, using stderr\n").settle
      .stderr
  | some p =>
    match b.openAppend p with
    | (b, some (file, size)) =>
      (b.say ("[MG-JSONL] primary path failed, using fallback: " ++ p.display ++ "\n")).takeUp p
        .fallback file size
    | (b, none) =>
      (b.say "[MG-JSONL] both primary and fallback paths failed, using stderr\n").settle .stderr

def start (s : Scene) (config : Config) (now : Nat) (refusals : List Bool) (trouble : Trouble) :
    Bench :=
  let w : Writer :=
    { config, sink := none, level := .discard, bytesWritten := 0, lastSync := now, refusals }
  match openAppend ⟨s, w, trouble, .errors, [], [], 0, false⟩ config.path with
  | (b, some (file, size)) => b.takeUp config.path .normal file size
  | (b, none) => b.openFallback

def fall (b : Bench) : Bench :=
  match b.writer.level with
  | .normal => b.openFallback
  | .fallback =>
    (b.say "[MG-JSONL] fallback write failed, using stderr\n").settle .stderr
  | .stderr => b.settle .discard
  | .discard => b

def degrade (b : Bench) : Bench :=
  (b.does Writer.closeSink).fall

/-- A change of names that the system may refuse. -/
def move (x : List Bool × FileTree) (change : FileTree → Except IoFault FileTree) :
    List Bool × FileTree :=
  match x.1 with
  | true :: rest => (rest, x.2)
  | others =>
    (others.tail, match change x.2 with
      | .ok t => t
      | .error _ => x.2)

def shift (base : Path) : Nat → List Bool × FileTree → List Bool × FileTree
  | 0, x => x
  | i + 1, x =>
    shift base i (move x fun t => t.rename (rotatedName base (i + 1)) (rotatedName base (i + 2)))

def makeWay (base : Path) (kept : Nat) (x : List Bool × FileTree) : List Bool × FileTree :=
  move (shift base (kept - 1) x) fun t =>
    if kept = 0 then t.remove base else t.rename base (rotatedName base 1)

/-- The names of the log move on. -/
def turn (b : Bench) (base : Path) : Bench :=
  let x := makeWay base b.writer.config.maxRotatedFiles (b.trouble.movings, b.scene.tree)
  { b with scene.tree := x.2, trouble.movings := x.1 }

/-- A file is begun anew. What it holds already is not counted. -/
def renew (b : Bench) (base : Path) (file : NodeId) (size : Nat) : Bench :=
  { b with
    writer.sink := some ⟨file, [], 0⟩
    writer.bytesWritten := 0
    outlet := .file base
    surplus := size }

def miss (b : Bench) : Bench :=
  { b with missed := true }

def begin (b : Bench) (base : Path) : Bench :=
  match b.openAppend base with
  | (b, some (file, size)) => b.renew base file size
  | (b, none) => b.miss.degrade

def rotate (b : Bench) : Bench :=
  let b := (b.does Writer.flush).does Writer.closeSink
  match b.writer.base? with
  | none => b
  | some base => (b.turn base).begin base

def makeSpace (b : Bench) (size : Nat) : Bench :=
  if b.writer.isFull size then b.rotate else b

/-- What an attempt to write a line has left. -/
def tried (b : Bench) (a : Attempt) : Bench :=
  { b with scene := a.scene, writer.sink := some a.sink, writer.refusals := a.refusals }

/-- The file has taken a line. -/
def hand (b : Bench) (line : Bytes) : Bench :=
  { b with
    writer.bytesWritten := b.writer.bytesWritten + line.length
    handed := b.handed ++ [b.outlet] }

def due (b : Bench) (now : Nat) : Bench :=
  if b.writer.config.fsyncSecs ≤ now - b.writer.lastSync then b.does fun s w => w.sync s now else b

def shown (b : Bench) (line : Bytes) : Bench :=
  { b.say ("[MG-JSONL] " ++ line.lossy) with handed := b.handed ++ [.errors] }

def writeLine : Nat → Bench → Nat → Bytes → Bench
  | 0, b, _, _ => b
  | tries + 1, b, now, line =>
    let b := b.makeSpace line.length
    match b.writer.level with
    | .discard => b
    | .stderr => b.shown line
    | _ =>
      match b.writer.sink with
      | none => writeLine tries b.degrade now line
      | some k =>
        let a := k.put b.scene b.writer.refusals line
        if a.done then ((b.tried a).hand line).due now
        else writeLine tries (b.tried a).degrade now line

def obey (b : Bench) : Order → Bench
  | .entry now e => b.writeLine 3 now (Text.utf8 e.line)
  | .flush => b.does Writer.flush
  | .sync now => b.does fun s w => w.sync s now

end Bench

/-- One order, and what the system refuses meanwhile. -/
structure Hour where
  refusals : List Bool
  trouble : Trouble
  order : Order

namespace Bench

/-- The writer as it meets the order, with nothing noted of it yet. -/
def facing (b : Bench) (h : Hour) : Bench :=
  { b with
    writer.refusals := h.refusals
    trouble := h.trouble
    levels := []
    handed := []
    missed := false }

def work (b : Bench) (h : Hour) : Bench :=
  (b.facing h).obey h.order

/-- Nothing is refused, and the bench is where the writer is. -/
structure Follows (b : Bench) (s : Scene) (w : Writer) : Prop where
  trouble : b.trouble = .nothing
  scene : b.scene = s
  writer : b.writer = w

namespace Follows

variable {b : Bench} {s : Scene} {w : Writer}

theorem openAppend (follows : Follows b s w) (p : Path) :
    (b.openAppend p).2 = (Journal.openAppend s p).2 ∧
      Follows (b.openAppend p).1 (Journal.openAppend s p).1 w := by
  obtain ⟨trouble, rfl, rfl⟩ := follows
  obtain ⟨s, w, _, outlet, levels, handed, surplus, missed⟩ := b
  cases trouble
  exact ⟨rfl, rfl, rfl, rfl⟩

theorem does (follows : Follows b s w) (f : Scene → Writer → Scene × Writer) :
    Follows (b.does f) (f s w).1 (f s w).2 := by
  obtain ⟨trouble, rfl, rfl⟩ := follows
  exact ⟨trouble, rfl, rfl⟩

theorem openFallback (follows : Follows b s w) :
    Follows b.openFallback (w.openFallback s).1 (w.openFallback s).2 := by
  unfold Bench.openFallback Writer.openFallback
  obtain ⟨trouble, rfl, rfl⟩ := id follows
  cases b.writer.config.fallback with
  | none => exact ⟨trouble, rfl, rfl⟩
  | some p =>
    obtain ⟨same, opened⟩ := follows.openAppend p
    dsimp only
    generalize b.openAppend p = y at same opened
    generalize Journal.openAppend b.scene p = z at same opened
    obtain ⟨b', result⟩ := y
    obtain ⟨s', result'⟩ := z
    cases same
    obtain ⟨trouble', rfl, writer⟩ := opened
    rw [← writer]
    cases result <;> exact ⟨trouble', rfl, rfl⟩

theorem start (s : Scene) (c : Config) (now : Nat) (refusals : List Bool) :
    Follows (Bench.start s c now refusals .nothing) (Writer.start s c now refusals).1
      (Writer.start s c now refusals).2 := by
  unfold Bench.start Writer.start
  let w : Writer :=
    { config := c, sink := none, level := .discard, bytesWritten := 0, lastSync := now, refusals }
  have follows : Follows ⟨s, w, .nothing, .errors, [], [], 0, false⟩ s w := ⟨rfl, rfl, rfl⟩
  obtain ⟨same, opened⟩ := follows.openAppend c.path
  dsimp only
  generalize Bench.openAppend _ c.path = y at same opened
  generalize Journal.openAppend s c.path = z at same opened
  obtain ⟨b', result⟩ := y
  obtain ⟨s', result'⟩ := z
  cases same
  cases result with
  | none => exact opened.openFallback
  | some x =>
    obtain ⟨trouble, rfl, writer⟩ := opened
    exact ⟨trouble, rfl, by dsimp only [takeUp]; rw [writer]⟩

theorem degrade (follows : Follows b s w) :
    Follows b.degrade (w.degrade s).1 (w.degrade s).2 := by
  have closed := follows.does Writer.closeSink
  unfold Bench.degrade Writer.degrade
  generalize b.does Writer.closeSink = b' at closed
  generalize w.closeSink s = x at closed
  obtain ⟨s', w'⟩ := x
  dsimp only at closed ⊢
  obtain ⟨trouble, rfl, rfl⟩ := id closed
  unfold fall
  cases b'.writer.level with
  | normal => exact closed.openFallback
  | fallback | stderr | discard => exact ⟨trouble, rfl, rfl⟩

theorem move_nothing (t : FileTree) (change : FileTree → Except IoFault FileTree) :
    move ([], t) change = ([], match change t with
      | .ok t' => t'
      | .error _ => t) := rfl

theorem shift_nothing (base : Path) (i : Nat) (t : FileTree) :
    shift base i ([], t) = ([], Writer.shift base i t) := by
  induction i generalizing t with
  | zero => rfl
  | succ i ih => exact ih _

theorem makeWay_nothing (base : Path) (kept : Nat) (t : FileTree) :
    makeWay base kept ([], t) = ([], Writer.makeWay base kept t) := by
  rw [makeWay, shift_nothing, move_nothing]
  rfl

theorem turn (follows : Follows b s w) (base : Path) :
    Follows (b.turn base)
      { s with tree := Writer.makeWay base w.config.maxRotatedFiles s.tree } w := by
  obtain ⟨trouble, rfl, rfl⟩ := follows
  rw [Bench.turn, trouble, Trouble.nothing, makeWay_nothing]
  exact ⟨rfl, rfl, rfl⟩

theorem rotate (follows : Follows b s w) : Follows b.rotate (w.rotate s).1 (w.rotate s).2 := by
  have closed := (follows.does Writer.flush).does Writer.closeSink
  unfold Bench.rotate Writer.rotate
  generalize (b.does Writer.flush).does Writer.closeSink = b' at closed
  generalize w.flush s = x at closed
  obtain ⟨s₁, w₁⟩ := x
  dsimp only at closed ⊢
  generalize w₁.closeSink s₁ = x at closed
  obtain ⟨s', w'⟩ := x
  dsimp only at closed ⊢
  rw [closed.writer]
  cases w'.base? with
  | none => exact closed
  | some base =>
    dsimp only
    obtain ⟨same, opened⟩ := (closed.turn base).openAppend base
    unfold begin
    generalize (b'.turn base).openAppend base = y at same opened
    generalize Journal.openAppend _ base = z at same opened
    obtain ⟨b'', result⟩ := y
    obtain ⟨s'', result'⟩ := z
    cases same
    cases result with
    | none =>
      have missed : Follows b''.miss s'' w' := ⟨opened.trouble, opened.scene, opened.writer⟩
      exact missed.degrade
    | some x =>
      obtain ⟨trouble, rfl, writer⟩ := opened
      exact ⟨trouble, rfl, by dsimp only [renew]; rw [writer]⟩

theorem due (follows : Follows b s w) (now : Nat) :
    Follows (b.due now) (if w.config.fsyncSecs ≤ now - w.lastSync then w.sync s now else (s, w)).1
      (if w.config.fsyncSecs ≤ now - w.lastSync then w.sync s now else (s, w)).2 := by
  obtain ⟨trouble, rfl, rfl⟩ := id follows
  unfold Bench.due
  split
  · exact follows.does fun s w => w.sync s now
  · exact follows

theorem hand (follows : Follows b s w) (line : Bytes) :
    Follows (b.hand line) s { w with bytesWritten := w.bytesWritten + line.length } := by
  obtain ⟨trouble, rfl, rfl⟩ := follows
  exact ⟨trouble, rfl, rfl⟩

theorem tried (follows : Follows b s w) (a : Attempt) :
    Follows (b.tried a) a.scene { w with sink := some a.sink, refusals := a.refusals } := by
  obtain ⟨trouble, rfl, rfl⟩ := follows
  exact ⟨trouble, rfl, rfl⟩

/-- Where nothing is refused, the line is written as the writer writes it. -/
theorem writeLine (follows : Follows b s w) (tries now : Nat) (line : Bytes) :
    Follows (b.writeLine tries now line) (w.writeLine tries s now line).1
      (w.writeLine tries s now line).2 := by
  induction tries generalizing b s w with
  | zero => exact follows
  | succ tries ih =>
    have spaced : Follows (b.makeSpace line.length)
        (if w.isFull line.length then w.rotate s else (s, w)).1
        (if w.isFull line.length then w.rotate s else (s, w)).2 := by
      unfold makeSpace
      rw [follows.writer]
      split
      · exact follows.rotate
      · exact follows
    rw [Bench.writeLine, Writer.writeLine]
    generalize (if w.isFull line.length then w.rotate s else (s, w)) = x at spaced
    generalize b.makeSpace line.length = b' at spaced
    obtain ⟨s', w'⟩ := x
    obtain ⟨trouble, rfl, rfl⟩ := id spaced
    dsimp only at spaced ⊢
    have again : ∀ {b'' : Bench} {s'' : Scene} {w'' : Writer}, Follows b'' s'' w'' →
        Follows (Bench.writeLine tries b''.degrade now line)
          (Writer.writeLine tries (w''.degrade s'').1 (w''.degrade s'').2 now line).1
          (Writer.writeLine tries (w''.degrade s'').1 (w''.degrade s'').2 now line).2 :=
      fun follows => ih follows.degrade
    obtain ⟨scene, ⟨config, sink, level, size, synced, refusals⟩, _, _⟩ := b'
    cases level with
    | discard => exact spaced
    | stderr => exact ⟨trouble, rfl, rfl⟩
    | normal | fallback =>
      cases sink with
      | none => exact again spaced
      | some k =>
        have tries := spaced.tried (k.put scene refusals line)
        dsimp only
        split
        · exact (tries.hand line).due now
        · exact again tries

theorem obey (follows : Follows b s w) (o : Order) :
    Follows (b.obey o) (w.obey s o).1 (w.obey s o).2 := by
  cases o with
  | entry now e => exact follows.writeLine 3 now _
  | flush => exact follows.does Writer.flush
  | sync now => exact follows.does fun s w => w.sync s now

end Follows

theorem start_of_calm (s : Scene) (c : Config) (now : Nat) (refusals : List Bool) :
    Writer.start s c now refusals =
      ((start s c now refusals .nothing).scene, (start s c now refusals .nothing).writer) := by
  have follows := Follows.start s c now refusals
  exact Prod.ext follows.scene.symm follows.writer.symm

theorem work_of_calm (b : Bench) {h : Hour} (calm : h.trouble = .nothing) :
    ({ b.writer with refusals := h.refusals }).obey b.scene h.order =
      ((b.work h).scene, (b.work h).writer) := by
  have starts : Follows (b.facing h) b.scene { b.writer with refusals := h.refusals } :=
    ⟨calm, rfl, rfl⟩
  have follows := starts.obey h.order
  exact Prod.ext follows.scene.symm follows.writer.symm

end Bench

end MountProbe.Journal
