import Mathlib.Logic.Relation
import MountProbe.Journal.Logger
import MountProbe.Proofs.FileTree.Elsewhere
import MountProbe.Proofs.Journal.Course
import MountProbe.Proofs.Journal.Names

/-! What a log touches. Whatever a logger does and whichever writes fail, each change that it makes to
the files is a call by one of the names of its log, or a write to the file that it has open. So it
leaves every file that has no such name. -/
namespace MountProbe.Journal

open FileTree

/-- The files, and the one that a log has open. -/
structure Hold where
  tree : FileTree
  file : Option NodeId

def Writer.hold (s : Scene) (w : Writer) : Hold :=
  ⟨s.tree, w.sink.map Sink.file⟩

inductive Touch (c : Config) : Hold → Hold → Prop where
  | wrote {t u : FileTree} {i : NodeId} {bytes : Bytes} : t.append i bytes = .ok u →
    Touch c ⟨t, some i⟩ ⟨u, some i⟩
  | closed (t : FileTree) (i : NodeId) : Touch c ⟨t, some i⟩ ⟨t, none⟩
  | furnished {base above : Path} (t : FileTree) : base ∈ c.bases → base.parent? = some above →
    Touch c ⟨t, none⟩ ⟨(t.makeAll above).1, none⟩
  | opened {base : Path} {t u : FileTree} {i : NodeId} : base ∈ c.bases →
    t.openFile base = .ok (u, i) → Touch c ⟨t, none⟩ ⟨u, some i⟩
  | renamed {base : Path} {t u : FileTree} {j : Nat} : base ∈ c.bases → j < c.maxRotatedFiles →
    t.rename (logPath base j) (logPath base (j + 1)) = .ok u → Touch c ⟨t, none⟩ ⟨u, none⟩
  | removed {base : Path} {t u : FileTree} : base ∈ c.bases → c.maxRotatedFiles = 0 →
    t.remove base = .ok u → Touch c ⟨t, none⟩ ⟨u, none⟩

abbrev Touches (c : Config) : Hold → Hold → Prop :=
  Relation.ReflTransGen (Touch c)

/-- No name of the log is that of the file, and it has another file open. -/
structure Avoids (c : Config) (d : NodeId) (n : Bytes) (h : Hold) : Prop where
  names : ∀ base ∈ c.bases, ∀ j ≤ c.maxRotatedFiles, h.tree.Misses (logPath base j) d n
  file : ∀ i, h.file = some i → h.tree.arrive mostLinks (.entry d n) ≠ .ok i

/-- Wherever the log gets from here, it avoids the file. -/
def Leaves (c : Config) (d : NodeId) (n : Bytes) (h : Hold) : Prop :=
  ∀ g, Touches c h g → Avoids c d n g

section

variable {c : Config} {d : NodeId} {n : Bytes} {g h : Hold} {t : FileTree} {base : Path}

theorem Touch.kept (touch : Touch c g h) (before : Avoids c d n g) (after : Avoids c d n h) :
    Kept d n g.tree h.tree := by
  cases touch with
  | wrote written => exact kept_of_append written (before.file _ rfl)
  | closed t i => exact .refl t
  | furnished t _ _ => exact (grown_makeDirs _ t _).kept
  | opened _ opened => exact kept_of_openFile opened (after.file _ rfl)
  | renamed own low renamed =>
    exact kept_of_rename renamed (before.names _ own _ (Nat.le_of_lt low)) (before.names _ own _ low)
  | removed own _ removed => exact kept_of_remove removed (before.names _ own 0 (Nat.zero_le _))

theorem Leaves.kept (leaves : Leaves c d n g) (touches : Touches c g h) :
    Kept d n g.tree h.tree := by
  induction touches with
  | refl => exact .refl g.tree
  | tail before last ih =>
    exact ih.trans (last.kept (leaves _ before) (leaves _ (before.tail last)))

theorem touches_openAppend (own : base ∈ c.bases) (s : Scene) :
    Touches c ⟨s.tree, none⟩
      ⟨(openAppend s base).1.tree, (openAppend s base).2.map Prod.fst⟩ := by
  unfold openAppend
  split
  rename_i tree made furnished
  have first : Touches c ⟨s.tree, none⟩ ⟨tree, none⟩ := by
    split at furnished
    · cases furnished
      exact .refl
    · rename_i above up
      rw [show tree = (s.tree.makeAll above).1 from (congrArg Prod.fst furnished).symm]
      exact .single (.furnished s.tree own up)
  dsimp only
  split
  · exact first
  · split
    · exact first
    · rename_i opened
      exact first.tail (.opened own opened)

theorem touches_shift (own : base ∈ c.bases) {k : Nat} (low : k < c.maxRotatedFiles ∨ k = 0)
    (t : FileTree) : Touches c ⟨t, none⟩ ⟨Writer.shift base k t, none⟩ := by
  induction k generalizing t with
  | zero => exact .refl
  | succ k ih =>
    have room : k + 1 < c.maxRotatedFiles := by omega
    rw [Writer.shift]
    split
    · rename_i u renamed
      have touch : Touch c ⟨t, none⟩ ⟨u, none⟩ := .renamed (j := k + 1) own room renamed
      exact .head touch (ih (by omega) u)
    · exact ih (by omega) t

theorem touches_makeWay (own : base ∈ c.bases) (t : FileTree) :
    Touches c ⟨t, none⟩ ⟨Writer.makeWay base c.maxRotatedFiles t, none⟩ := by
  have shifts := touches_shift (k := c.maxRotatedFiles - 1) own (by omega) t
  unfold Writer.makeWay
  generalize Writer.shift base (c.maxRotatedFiles - 1) t = v at shifts
  dsimp only
  split
  · rename_i u done
    split at done
    · rename_i nothing_kept
      exact shifts.tail (.removed own nothing_kept done)
    · rename_i some_kept
      exact shifts.tail (.renamed (j := 0) own (Nat.pos_of_ne_zero some_kept) done)
  · exact shifts

variable {s : Scene} {k : Sink} {refusals : List Bool} {bytes line : Bytes} {w : Writer}

theorem Sink.touches_write (c : Config) (s : Scene) (refusals : List Bool) (k : Sink)
    (bytes : Bytes) : Touches c ⟨s.tree, some k.file⟩
      ⟨(k.write s refusals bytes).scene.tree, some (k.write s refusals bytes).sink.file⟩ := by
  unfold write
  split
  · exact .refl
  · split
    · rename_i tree written
      exact .single (.wrote written)
    · exact .refl

theorem Sink.touches_flush (c : Config) (s : Scene) (refusals : List Bool) (k : Sink) :
    Touches c ⟨s.tree, some k.file⟩
      ⟨(k.flush s refusals).scene.tree, some (k.flush s refusals).sink.file⟩ := by
  have writes := k.touches_write c s refusals k.bytes
  unfold flush
  split
  · exact .refl
  · dsimp only
    split
    · have same : (k.write s refusals k.bytes).sink.file = k.file := by
        unfold write
        split
        · rfl
        · split <;> rfl
      rw [same] at writes
      exact writes
    · exact writes

theorem Sink.touches_put (c : Config) (s : Scene) (refusals : List Bool) (k : Sink)
    (line : Bytes) : Touches c ⟨s.tree, some k.file⟩
      ⟨(k.put s refusals line).scene.tree, some (k.put s refusals line).sink.file⟩ := by
  have room : Touches c ⟨s.tree, some k.file⟩
      ⟨(k.makeRoom s refusals line.length).scene.tree,
        some (k.makeRoom s refusals line.length).sink.file⟩ := by
    unfold makeRoom
    split
    · exact k.touches_flush c s refusals
    · exact .refl
  unfold put
  split
  · exact .refl
  · dsimp only
    generalize k.makeRoom s refusals line.length = a at room
    split
    · exact room
    · split
      · exact room
      · exact room.trans (a.sink.touches_write c a.scene a.refusals line)

namespace Writer

structure Works (s : Scene) (w : Writer) (s' : Scene) (w' : Writer) : Prop where
  config : w'.config = w.config
  touches : Touches w.config (w.hold s) (w'.hold s')

theorem Works.refl (s : Scene) (w : Writer) : Works s w s w :=
  ⟨rfl, .refl⟩

theorem Works.trans {s₁ s₂ s₃ : Scene} {w₁ w₂ w₃ : Writer} (first : Works s₁ w₁ s₂ w₂)
    (last : Works s₂ w₂ s₃ w₃) : Works s₁ w₁ s₃ w₃ := by
  have touches := last.touches
  rw [first.config] at touches
  exact ⟨last.config.trans first.config, first.touches.trans touches⟩

theorem flush_works (s : Scene) (w : Writer) : Works s w (w.flush s).1 (w.flush s).2 := by
  unfold flush
  split
  · exact .refl s w
  · rename_i k here
    refine ⟨rfl, ?_⟩
    rw [hold, here]
    exact k.touches_flush w.config s w.refusals

theorem closeSink_works (s : Scene) (w : Writer) :
    Works s w (w.closeSink s).1 (w.closeSink s).2 := by
  unfold closeSink
  split
  · exact .refl s w
  · rename_i k here
    refine ⟨rfl, ?_⟩
    rw [hold, here]
    exact (k.touches_flush w.config s w.refusals).tail (.closed _ _)

theorem openFallback_works (shut : w.sink = none) (s : Scene) :
    Works s w (w.openFallback s).1 (w.openFallback s).2 := by
  unfold openFallback
  split
  · exact ⟨rfl, .refl⟩
  · rename_i p fallback
    have own : p ∈ w.config.bases := by simp [Config.bases, fallback]
    have opens := touches_openAppend own s
    have before : w.hold s = ⟨s.tree, none⟩ := by rw [hold, shut, Option.map_none]
    split
    · rename_i s' file size opened
      rw [opened] at opens
      exact ⟨rfl, before ▸ opens⟩
    · rename_i s' failed
      rw [failed] at opens
      refine ⟨rfl, ?_⟩
      rw [before, hold, shut]
      exact opens

theorem degrade_works (s : Scene) (w : Writer) : Works s w (w.degrade s).1 (w.degrade s).2 := by
  have closes := w.closeSink_works s
  have shut := sink_closeSink s w
  unfold degrade
  generalize w.closeSink s = x at closes shut
  obtain ⟨s', w'⟩ := x
  dsimp only at closes shut ⊢
  cases w'.level with
  | normal => exact closes.trans (openFallback_works shut s')
  | fallback | stderr | discard => exact closes.trans ⟨rfl, .refl⟩

theorem rotate_works (s : Scene) (w : Writer) : Works s w (w.rotate s).1 (w.rotate s).2 := by
  have flushes := w.flush_works s
  unfold rotate
  generalize w.flush s = x at flushes
  obtain ⟨s₁, w₁⟩ := x
  have closes := w₁.closeSink_works s₁
  have shut := sink_closeSink s₁ w₁
  dsimp only at flushes ⊢
  generalize w₁.closeSink s₁ = y at closes shut
  obtain ⟨s₂, w₂⟩ := y
  dsimp only at closes shut ⊢
  have shuts := flushes.trans closes
  split
  · exact shuts
  · rename_i base own
    have before : w₂.hold s₂ = ⟨s₂.tree, none⟩ := by rw [hold, shut, Option.map_none]
    have turns := touches_makeWay (mem_bases own) s₂.tree
    have opens := touches_openAppend (mem_bases own)
      { s₂ with tree := makeWay base w₂.config.maxRotatedFiles s₂.tree }
    split
    · rename_i s₃ file size opened
      rw [opened] at opens
      exact shuts.trans ⟨rfl, before ▸ turns.trans opens⟩
    · rename_i s₃ failed
      rw [failed] at opens
      have misses : Works s₂ w₂ s₃ w₂ := by
        refine ⟨rfl, ?_⟩
        rw [before, hold, shut]
        exact turns.trans opens
      exact (shuts.trans misses).trans (w₂.degrade_works s₃)

theorem sync_works (s : Scene) (w : Writer) (now : Nat) :
    Works s w (w.sync s now).1 (w.sync s now).2 := by
  unfold sync
  split
  · exact .refl s w
  · have flushes := w.flush_works s
    exact ⟨flushes.config, flushes.touches⟩

theorem writeLine_works (tries : Nat) (s : Scene) (w : Writer) (now : Nat) (line : Bytes) :
    Works s w (w.writeLine tries s now line).1 (w.writeLine tries s now line).2 := by
  induction tries generalizing s w with
  | zero => exact .refl s w
  | succ tries ih =>
    have turns : Works s w (if w.isFull line.length then w.rotate s else (s, w)).1
        (if w.isFull line.length then w.rotate s else (s, w)).2 := by
      split
      · exact w.rotate_works s
      · exact .refl s w
    rw [writeLine]
    generalize (if w.isFull line.length then w.rotate s else (s, w)) = x at turns
    obtain ⟨s₁, w₁⟩ := x
    dsimp only at turns ⊢
    split
    · exact turns
    · exact turns.trans ⟨rfl, .refl⟩
    · split
      · exact (turns.trans (w₁.degrade_works s₁)).trans (ih _ _)
      · rename_i k here
        have puts : ∀ size, Works s₁ w₁ (k.put s₁ w₁.refusals line).scene
            { w₁ with
              sink := some (k.put s₁ w₁.refusals line).sink
              refusals := (k.put s₁ w₁.refusals line).refusals
              bytesWritten := size } := by
          intro size
          refine ⟨rfl, ?_⟩
          rw [hold, here]
          exact k.touches_put w₁.config s₁ w₁.refusals line
        generalize k.put s₁ w₁.refusals line = a at puts
        have takes := fun size => turns.trans (puts size)
        split
        · split
          · exact (takes _).trans (sync_works _ _ now)
          · exact takes _
        · exact ((takes _).trans (degrade_works _ _)).trans (ih _ _)

theorem writeAll_works (now : Nat) (s : Scene) (w : Writer) (es : List Entry) :
    Works s w (writeAll now s w es).1 (writeAll now s w es).2 := by
  induction es generalizing s w with
  | nil => exact .refl s w
  | cons e rest ih => exact (writeLine_works 3 s w now _).trans (ih _ _)

theorem start_works (s : Scene) (c : Config) (now : Nat) (refusals : List Bool) :
    (start s c now refusals).2.config = c ∧
      Touches c ⟨s.tree, none⟩ ((start s c now refusals).2.hold (start s c now refusals).1) := by
  have own : c.path ∈ c.bases := List.mem_cons_self
  have opens := touches_openAppend own s
  unfold start
  dsimp only
  split
  · rename_i s' file size opened
    rw [opened] at opens
    exact ⟨rfl, opens⟩
  · rename_i s' failed
    rw [failed] at opens
    have falls := openFallback_works (w := ⟨c, none, .discard, 0, now, refusals⟩) rfl s'
    exact ⟨falls.config, opens.trans falls.touches⟩

end Writer

namespace Logger

variable {l : Logger}

theorem record_works (s : Scene) (l : Logger) (ms : Nat) (e : Event) :
    l.writer.Works s (l.record s ms e).1 (l.record s ms e).2.writer := by
  unfold record
  dsimp only
  split
  · exact .refl s l.writer
  · exact Writer.writeAll_works _ s l.writer _

theorem recordAll_works (s : Scene) (l : Logger) (ms : Nat) (es : List Event) :
    l.writer.Works s (l.recordAll s ms es).1 (l.recordAll s ms es).2.writer := by
  induction es generalizing s l with
  | nil => exact .refl s l.writer
  | cons e rest ih => exact (l.record_works s ms e).trans (ih _ _)

theorem stop_touches (s : Scene) (l : Logger) (ms : Nat) :
    Touches l.writer.config (l.writer.hold s) ⟨(l.stop s ms).tree, none⟩ := by
  have syncs := l.writer.sync_works s (ms / 1000)
  unfold stop
  generalize l.writer.sync s (ms / 1000) = x at syncs
  obtain ⟨s', w⟩ := x
  have closes := w.closeSink_works s'
  have shut : (w.closeSink s').2.hold (w.closeSink s').1 = ⟨(w.closeSink s').1.tree, none⟩ := by
    rw [Writer.hold, Writer.sink_closeSink, Option.map_none]
  have ends := (syncs.trans closes).touches
  rwa [shut] at ends

end Logger

end

end MountProbe.Journal
