import MountProbe.Proofs.Journal.Orders
import MountProbe.Proofs.Journal.Shelf

namespace MountProbe.Journal

open FileTree

section

variable {s v : Scene} {t : FileTree} {k : Sink} {d line : Bytes} {dir : NodeId} {name : Bytes}
  {base : Path} {kept x : Nat} {c : Config} {w : Writer}

theorem Sink.bytes_hold : (k.hold line).bytes = k.bytes ++ line := by
  simp [bytes, hold]

theorem Sink.bytes_emptied : k.emptied.bytes = [] := rfl

theorem Sink.write_of_file (there : s.tree.contents? k.file = some d) (bytes : Bytes) :
    k.write s [] bytes = ⟨{ s with tree := s.tree.extended k.file bytes }, [], k, true⟩ := by
  unfold write
  simp only [append_of_contents there]
  rfl

theorem Sink.flush_of_file (there : s.tree.contents? k.file = some d)
    (size : k.waitingSize = k.bytes.length) :
    k.flush s [] = ⟨{ s with tree := s.tree.extended k.file k.bytes }, [], k.emptied, true⟩ := by
  rw [flush, write_of_file there]
  split
  · rename_i empty
    have nothing : k.waiting = [] := List.isEmpty_iff.mp empty
    have no_bytes : k.bytes = [] := by rw [bytes, nothing]; rfl
    rw [no_bytes] at size ⊢
    have same : k.emptied = k := by
      rw [emptied, ← nothing, ← size.trans List.length_nil]
    rw [same, extended_nil]
  · rfl

/-- A sink takes a line: some of what waits and the line is written, and the rest waits. -/
theorem Sink.put_of_file (there : s.tree.contents? k.file = some d)
    (size : k.waitingSize = k.bytes.length) (line : Bytes) :
    ∃ written k', k.put s [] line =
        ⟨{ s with tree := s.tree.extended k.file written }, [], k', true⟩ ∧
      k'.file = k.file ∧ k'.waitingSize = k'.bytes.length ∧
      written ++ k'.bytes = k.bytes ++ line := by
  have held : ∀ {l : Sink}, l.waitingSize = l.bytes.length →
      (l.hold line).waitingSize = (l.hold line).bytes.length := by
    intro l fits
    rw [bytes_hold, List.length_append, ← fits]
    rfl
  rw [put]
  split
  · exact ⟨[], k.hold line, rfl, rfl, held size, bytes_hold⟩
  rename_i no_room
  rw [makeRoom]
  split
  · rw [flush_of_file there size]
    simp only [Bool.not_true, Bool.false_eq_true, if_false]
    split
    · exact ⟨k.bytes, k.emptied.hold line, rfl, rfl, held rfl, by rw [bytes_hold]; rfl⟩
    · refine ⟨k.bytes ++ line, k.emptied, ?_, rfl, rfl, List.append_nil _⟩
      rw [write_of_file (contents?_extended there k.bytes)]
      simp only [emptied, extended_extended there]
  · simp only [Bool.not_true, Bool.false_eq_true, if_false]
    split
    · exact ⟨[], k.hold line, rfl, rfl, held size, bytes_hold⟩
    · -- There is room for a line as long as the buffer only when nothing waits.
      rename_i fits long
      have nothing : k.bytes = [] := by
        rw [← List.length_eq_zero_iff, ← size]
        unfold bufferSize at *
        omega
      rw [write_of_file there]
      exact ⟨line, k, rfl, rfl, size, by rw [nothing, List.append_nil]; rfl⟩

/-- The tree in which a log is open, and its file. -/
def opened (t : FileTree) (dir : NodeId) (name : Bytes) : FileTree × NodeId :=
  match slot t dir name 0 with
  | some x => (t, x)
  | none => (t.withFile dir name, t.nodes.size)

theorem opened_of_entry (here : slot t dir name 0 = some x) : opened t dir name = (t, x) := by
  rw [opened, here]

/-- What opening a log comes to. -/
structure Open (t : FileTree) (base : Path) (kept : Nat) (dir : NodeId) (name : Bytes)
    (x : NodeId) (d : Bytes) : Prop where
  shelf : Shelf t base kept dir name
  here : slot t dir name 0 = some x
  there : t.contents? x = some d

theorem Shelf.opens (h : Shelf s.tree base kept dir name) :
    ∃ t x d, opened s.tree dir name = (t, x) ∧ Open t base kept dir name x d ∧
      openAppend s base = ({ s with tree := t }, some (x, d.length)) := by
  cases here : slot s.tree dir name 0 with
  | some x =>
    obtain ⟨d, there⟩ := h.leads 0 (Nat.zero_le _) x here
    exact ⟨s.tree, x, d, opened_of_entry here, ⟨h, here, there⟩,
      openAppend_of_entry h here there⟩
  | none =>
    obtain ⟨parent, es, listed⟩ := h.isOpen
    obtain ⟨shelf, slots⟩ := h.withFile here
    refine ⟨s.tree.withFile dir name, s.tree.nodes.size, [], by rw [opened, here],
      ⟨shelf, by rw [slots, if_pos rfl], ?_⟩, openAppend_of_missing h here⟩
    rw [contents?_withFile listed, if_pos rfl]

/-- All names of a log lead to its file, so that a rotation moves nothing. -/
def OneFile (t : FileTree) (kept : Nat) (dir : NodeId) (name : Bytes) (x : NodeId) : Prop :=
  0 < kept ∧ ∀ i ≤ kept, slot t dir name i = some x

def turned (t : FileTree) (base : Path) (kept : Nat) (dir : NodeId) (name : Bytes) :
    FileTree × NodeId :=
  opened (Writer.makeWay base kept t) dir name

theorem turned_of_oneFile (h : Shelf t base kept dir name) (one : OneFile t kept dir name x) :
    turned t base kept dir name = (t, x) := by
  obtain ⟨m, rfl⟩ := Nat.exists_eq_succ_of_ne_zero (Nat.ne_of_gt one.1)
  rw [turned, makeWay_of_same h (Nat.lt_succ_self m) one.2]
  exact opened_of_entry (one.2 0 (Nat.zero_le _))

theorem Shelf.freed (h : Shelf t base kept dir name) (several : ∀ x, ¬ OneFile t kept dir name x) :
    slot (Writer.makeWay base kept t) dir name 0 = none := by
  rw [h.makeWay.1.slots]
  cases kept with
  | zero => rfl
  | succ m =>
    by_contra stays
    obtain ⟨x, found⟩ := Option.ne_none_iff_exists'.mp stays
    exact several x ⟨Nat.succ_pos m, passDown_zero found⟩

theorem Open.turned (h : Open t base kept dir name x d) :
    ∃ u y e, Journal.turned t base kept dir name = (u, y) ∧ Open u base kept dir name y e ∧
      (e = [] ∨ OneFile u kept dir name y) := by
  by_cases one : OneFile t kept dir name x
  · exact ⟨t, x, d, turned_of_oneFile h.shelf one, h, .inr one⟩
  · obtain ⟨-, shelf⟩ := h.shelf.makeWay
    have free := h.shelf.freed fun y other => by
      cases h.here.symm.trans (other.2 0 (Nat.zero_le _))
      exact one other
    obtain ⟨parent, es, listed⟩ := shelf.isOpen
    obtain ⟨shelf', slots⟩ := shelf.withFile free
    refine ⟨_, _, [], by rw [Journal.turned, opened, free], ⟨shelf', by rw [slots, if_pos rfl], ?_⟩,
      .inl rfl⟩
    rw [contents?_withFile listed, if_pos rfl]

theorem Open.length (h : Open t base kept dir name x d) : t.length x = d.length := by
  rw [FileTree.length, node_of_contents h.there]

theorem Open.extended (h : Open t base kept dir name x d) (bytes : Bytes) :
    Open (t.extended x bytes) base kept dir name x (d ++ bytes) where
  shelf := h.shelf.extended h.there bytes
  here := by rw [slot_extended h.there]; exact h.here
  there := contents?_extended h.there bytes

theorem OneFile.extended (one : OneFile t kept dir name x) (there : t.contents? x = some d)
    (bytes : Bytes) : OneFile (t.extended x bytes) kept dir name x :=
  ⟨one.1, fun i low => by rw [slot_extended there]; exact one.2 i low⟩

/-- A log after one more line, written by a writer without a buffer that looks at the file's size
first. -/
def recorded (c : Config) (dir : NodeId) (name : Bytes) (v : Scene) (line : Bytes) : Scene :=
  match opened v.tree dir name with
  | (t, x) =>
    if c.maxSizeBytes < t.length x + line.length then
      match turned t c.path c.maxRotatedFiles dir name with
      | (t, x) => { v with tree := t.extended x line }
    else { v with tree := t.extended x line }

theorem recorded_of_open (h : Open v.tree c.path c.maxRotatedFiles dir name x d) :
    recorded c dir name v line =
      if c.maxSizeBytes < d.length + line.length then
        match Journal.turned v.tree c.path c.maxRotatedFiles dir name with
        | (t, x) => { v with tree := t.extended x line }
      else { v with tree := v.tree.extended x line } := by
  rw [recorded, opened_of_entry h.here]
  simp only [h.length]

theorem recorded_of_oneFile (h : Open v.tree c.path c.maxRotatedFiles dir name x d)
    (one : OneFile v.tree c.maxRotatedFiles dir name x) :
    recorded c dir name v line = { v with tree := v.tree.extended x line } := by
  rw [recorded_of_open h, turned_of_oneFile h.shelf one, ite_self]

/-- A writer at work on its own log, with what there will be once all is written. -/
structure Live (c : Config) (dir : NodeId) (name : Bytes) (s : Scene) (w : Writer) (k : Sink)
    (v : Scene) : Prop where
  config : w.config = c
  refusals : w.refusals = []
  level : w.level = .normal
  sink : w.sink = some k
  size : k.waitingSize = k.bytes.length
  settled : v = { s with tree := s.tree.extended k.file k.bytes }
  onDisk : ∃ d, Open s.tree c.path c.maxRotatedFiles dir name k.file d ∧
    (w.bytesWritten = (d ++ k.bytes).length ∨
      OneFile s.tree c.maxRotatedFiles dir name k.file)

theorem Live.isOpen (h : Live c dir name s w k v) :
    ∃ d, Open v.tree c.path c.maxRotatedFiles dir name k.file d ∧
      (w.bytesWritten = d.length ∨ OneFile v.tree c.maxRotatedFiles dir name k.file) := by
  obtain ⟨d, isOpen, count⟩ := h.onDisk
  rw [h.settled]
  exact ⟨d ++ k.bytes, isOpen.extended _,
    count.imp_right fun one => one.extended isOpen.there _⟩

theorem Live.flush (h : Live c dir name s w k v) :
    w.flush s = (v, { w with sink := some k.emptied }) ∧
      Live c dir name v { w with sink := some k.emptied } k.emptied v := by
  obtain ⟨d, isOpen, -⟩ := h.onDisk
  refine ⟨?_, h.config, h.refusals, h.level, rfl, rfl, rfl, ?_⟩
  · rw [Writer.flush, h.sink, h.refusals]
    simp only [Sink.flush_of_file isOpen.there h.size, h.settled]
  · simp only [Sink.bytes_emptied, List.append_nil]
    exact h.isOpen

theorem Live.sync (h : Live c dir name s w k v) (now : Nat) :
    w.sync s now = (v, { w with sink := some k.emptied, lastSync := now }) ∧
      Live c dir name v { w with sink := some k.emptied, lastSync := now } k.emptied v := by
  obtain ⟨flushed, after⟩ := h.flush
  refine ⟨?_, ⟨after.config, after.refusals, after.level, rfl, rfl, rfl, after.onDisk⟩⟩
  simp only [Writer.sync, h.sink, flushed]

theorem Live.closeSink (h : Live c dir name s w k v) :
    w.closeSink s = (v, { w with sink := none }) := by
  obtain ⟨d, isOpen, -⟩ := h.onDisk
  rw [Writer.closeSink, h.sink, h.refusals]
  simp only [Sink.flush_of_file isOpen.there h.size, h.settled]

theorem Live.finish (h : Live c dir name s w k v) : w.finish s = v := by
  obtain ⟨flushed, after⟩ := h.flush
  simp only [Writer.finish, flushed, after.closeSink]

theorem Live.put (h : Live c dir name s w k v) (line : Bytes) :
    ∃ s' k', k.put s w.refusals line = ⟨s', [], k', true⟩ ∧
      Live c dir name s'
        { w with sink := some k', refusals := [], bytesWritten := w.bytesWritten + line.length } k'
        { v with tree := v.tree.extended k.file line } := by
  obtain ⟨d, isOpen, count⟩ := h.onDisk
  obtain ⟨written, k', put, file, size, whole⟩ := Sink.put_of_file isOpen.there h.size line
  rw [h.refusals]
  refine ⟨_, k', put, h.config, rfl, h.level, rfl, size, ?_, d ++ written, ?_, ?_⟩
  · simp only [h.settled, file, extended_extended isOpen.there, whole]
  · rw [file]
    exact isOpen.extended written
  · rw [file]
    refine count.imp (fun counted => ?_) fun one => one.extended isOpen.there _
    rw [List.append_assoc, whole, ← List.append_assoc, List.length_append, counted]

theorem Live.rotate (h : Live c dir name s w k v) :
    ∃ t w' k', w.rotate s = ({ v with tree := t }, w') ∧
      turned v.tree c.path c.maxRotatedFiles dir name = (t, k'.file) ∧
      Live c dir name { v with tree := t } w' k' { v with tree := t } := by
  obtain ⟨flushed, after⟩ := h.flush
  obtain ⟨d, isOpen, -⟩ := h.isOpen
  obtain ⟨t, y, e, turn, open_after, count⟩ := isOpen.turned
  obtain ⟨-, shelf⟩ := isOpen.shelf.makeWay
  obtain ⟨t', y', e', again, open_there, appends⟩ :=
    Shelf.opens (s := { v with tree := Writer.makeWay c.path c.maxRotatedFiles v.tree }) shelf
  have same : (t', y') = (t, y) := again.symm.trans turn
  cases same
  refine ⟨t, { w with sink := some ⟨y, [], 0⟩, bytesWritten := 0 }, ⟨y, [], 0⟩, ?_, turn,
    h.config, h.refusals, h.level, rfl, rfl, rfl, e, open_after, ?_⟩
  · simp only [Writer.rotate, flushed, after.closeSink]
    simp only [Writer.base?, h.level, h.config, appends]
  · refine count.imp_left fun empty => ?_
    rw [empty]
    rfl

theorem Live.turn (h : Live c dir name s w k v) (line : Bytes) :
    ∃ s' w' k' v', (if w.isFull line.length then w.rotate s else (s, w)) = (s', w') ∧
      Live c dir name s' w' k' v' ∧
      recorded c dir name v line = { v' with tree := v'.tree.extended k'.file line } := by
  obtain ⟨d, isOpen, count⟩ := h.isOpen
  have full : w.isFull line.length = decide (c.maxSizeBytes < w.bytesWritten + line.length) := by
    rw [Writer.isFull, h.config, h.level, Level.usesFile, Bool.and_true]
  obtain ⟨t, w', k', rotates, turn, after⟩ := h.rotate
  rw [full]
  by_cases too_long : c.maxSizeBytes < w.bytesWritten + line.length
  · rw [decide_eq_true too_long, if_pos rfl]
    refine ⟨_, w', k', _, rotates, after, ?_⟩
    rcases count with counted | one
    · rw [recorded_of_open isOpen, ← counted, if_pos too_long, turn]
    · rw [turned_of_oneFile isOpen.shelf one] at turn
      obtain ⟨tree, file⟩ := Prod.mk.inj turn
      rw [recorded_of_oneFile isOpen one, tree, file]
  · rw [decide_eq_false too_long, if_neg (by simp)]
    refine ⟨s, w, k, v, rfl, h, ?_⟩
    rcases count with counted | one
    · rw [recorded_of_open isOpen, ← counted, if_neg too_long]
    · exact recorded_of_oneFile isOpen one

theorem Live.writeLine (h : Live c dir name s w k v) (tries now : Nat) (line : Bytes) :
    ∃ s' w' k', w.writeLine (tries + 1) s now line = (s', w') ∧
      Live c dir name s' w' k' (recorded c dir name v line) := by
  obtain ⟨s₁, w₁, k₁, v₁, turn, live, same⟩ := h.turn line
  obtain ⟨s₂, k₂, put, after⟩ := live.put line
  rw [live.level] at after
  rw [Writer.writeLine, turn, same]
  simp only [live.level, live.sink, put, if_true]
  split
  · obtain ⟨synced, last⟩ := after.sync now
    exact ⟨_, _, _, synced, last⟩
  · exact ⟨_, _, _, rfl, after⟩

theorem Live.obey (h : Live c dir name s w k v) (o : Order) :
    ∃ s' w' k', w.obey s o = (s', w') ∧
      Live c dir name s' w' k' (o.line?.toList.foldl (recorded c dir name) v) := by
  cases o with
  | entry now e => exact h.writeLine 2 now _
  | flush => exact ⟨_, _, _, h.flush.1, h.flush.2⟩
  | sync now => exact ⟨_, _, _, (h.sync now).1, (h.sync now).2⟩

theorem Live.obeyAll (h : Live c dir name s w k v) (orders : List Order) :
    ∃ s' w' k', w.obeyAll s orders = (s', w') ∧
      Live c dir name s' w' k' ((linesOf orders).foldl (recorded c dir name) v) := by
  induction orders generalizing s w k v with
  | nil => exact ⟨s, w, k, rfl, h⟩
  | cons o orders ih =>
    obtain ⟨s', w', k', obeyed, after⟩ := h.obey o
    rw [Writer.obeyAll_cons, obeyed, linesOf_cons, List.foldl_append]
    exact ih after

theorem Live.start (made : parentsMade s.tree c.path = (t, .ok ()))
    (shelf : Shelf t c.path c.maxRotatedFiles dir name) (now : Nat) :
    ∃ w k, Writer.start s c now = ({ s with tree := (opened t dir name).1 }, w) ∧
      Live c dir name { s with tree := (opened t dir name).1 } w k
        { s with tree := (opened t dir name).1 } := by
  obtain ⟨t', x, d, isOpened, isOpen, appends⟩ := Shelf.opens (s := { s with tree := t }) shelf
  simp only at isOpened
  rw [isOpened, Writer.start, openAppend_of_parentsMade made shelf, appends]
  refine ⟨_, ⟨x, [], 0⟩, rfl, rfl, rfl, rfl, rfl, rfl, rfl, d, isOpen, .inl ?_⟩
  rw [show (Sink.bytes ⟨x, [], 0⟩) = [] from rfl, List.append_nil]

end

end MountProbe.Journal
