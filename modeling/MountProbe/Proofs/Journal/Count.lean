import MountProbe.Proofs.Journal.Outlets
import MountProbe.Proofs.Journal.Sessions

/-! What the count of bytes says. A rotation counts from nothing, whatever it finds under the name of
the log, so that the count is the size that the file will have once all is written, less what the
file held when it was last begun anew. Where that is nothing, a file has room for each line that it
takes, or holds that line only. -/
namespace MountProbe.Journal

theorem openAppend_finds {s s' : Scene} {p : Path} {file : NodeId} {size : Nat}
    (opens : openAppend s p = (s', some (file, size))) :
    s'.tree.find p = .ok file ∧ ∀ d, s'.tree.contents? file = some d → size = d.length := by
  rw [openAppend_eq] at opens
  split at opens
  · cases opens
  · split at opens
    · cases opens
    · rename_i t made u i opened
      cases opens
      refine ⟨(FileTree.opens_of_openFile opened).2, fun d there => ?_⟩
      rw [FileTree.length, FileTree.node_of_contents there]

namespace Bench

open Writer (Flushes flushes_flush flushes_sync)

/-- The log's name leads to the file, and the count is right but for what the file held already. -/
structure Counts (b : Bench) (k : Sink) (base : Path) : Prop where
  own : b.writer.base? = some base
  finds : b.scene.tree.find base = .ok k.file
  count : ∀ d, b.scene.tree.contents? k.file = some d →
    b.writer.bytesWritten + b.surplus = d.length + k.bytes.length

def Counted (b : Bench) : Prop :=
  ∀ k, b.writer.sink = some k → ∃ base, b.Counts k base

section

variable {b b' : Bench} {k k' : Sink} {base : Path} {line came : Bytes}

theorem Counted.of_none (shut : b.writer.sink = none) : b.Counted :=
  fun k opened => by cases shut.symm.trans opened

theorem Counts.passes (counts : b.Counts k base)
    (passes : k.Passes b.scene.tree came k' b'.scene.tree)
    (level : b'.writer.base? = b.writer.base?) (surplus : b'.surplus = b.surplus)
    (counted : b'.writer.bytesWritten = b.writer.bytesWritten + came.length) :
    b'.Counts k' base := by
  obtain ⟨file, written, grows, whole⟩ := passes
  refine ⟨level.trans counts.own, ?_, fun d after => ?_⟩
  · rw [file]
    exact grows.finds base counts.finds
  · rw [file] at after
    obtain ⟨c, before, rfl⟩ := grows.contents d after
    have count := counts.count c before
    have lengths := congrArg List.length whole
    rw [List.length_append, List.length_append] at lengths
    rw [counted, surplus, List.length_append]
    omega

theorem opened_finds {p : Path} {file : NodeId} {size : Nat}
    (opens : b.openAppend p = (b', some (file, size))) :
    b'.scene.tree.find p = .ok file ∧ ∀ d, b'.scene.tree.contents? file = some d →
      size = d.length := by
  unfold openAppend at opens
  split at opens
  · cases opens
  · obtain ⟨rfl, found⟩ := Prod.mk.inj opens
    exact openAppend_finds (Prod.ext rfl found)

theorem Counted.flushed (counted : b.Counted) {f : Scene → Writer → Scene × Writer}
    (flushes : Flushes f) : (b.does f).Counted := by
  intro k' opened
  cases here : b.writer.sink with
  | none =>
    rw [does, flushes.shut here] at opened ⊢
    exact counted k' opened
  | some k =>
    obtain ⟨base, counts⟩ := counted k here
    obtain ⟨lastSync, same⟩ := flushes.opened (s := b.scene) here
    rw [does, same] at opened ⊢
    cases opened
    exact ⟨base, counts.passes (k.passes_flush _ _) rfl rfl rfl⟩

theorem Step.counted (h : Step b b') (tidy : b.Tidy) (counted : b.Counted) : b'.Counted := by
  cases h with
  | flushed flushes => exact counted.flushed flushes
  | closed => exact .of_none (Writer.sink_closeSink _ _)
  | said | missed =>
    intro k opened
    obtain ⟨base, counts⟩ := counted k opened
    exact ⟨base, counts.own, counts.finds, counts.count⟩
  | refused some_line own fails =>
    rename_i k line
    rintro _ ⟨⟩
    obtain ⟨base, counts⟩ := counted k own
    have passes := (Sink.passes_put (tidy.fit k own) b.scene b.writer.refusals line).1
    rw [fails, if_neg Bool.false_ne_true] at passes
    exact ⟨base, counts.passes passes rfl rfl rfl⟩
  | turned shut => exact .of_none shut
  | renewed shut own opens =>
    rename_i b' base file size
    obtain ⟨finds, held⟩ := opened_finds opens
    obtain ⟨scene, trouble, rfl⟩ := openAppend_only opens
    rintro _ ⟨⟩
    refine ⟨base, own, finds, fun d there => ?_⟩
    rw [held d there]
    exact Nat.zero_add _
  | failed shut fails =>
    obtain ⟨scene, trouble, rfl⟩ := openAppend_only fails
    exact .of_none shut
  | fell shut normal own opens =>
    rename_i b' p file size
    obtain ⟨finds, held⟩ := opened_finds opens
    obtain ⟨scene, trouble, rfl⟩ := openAppend_only opens
    rintro _ ⟨⟩
    refine ⟨p, own, finds, fun d there => ?_⟩
    rw [held d there]
    rfl
  | ended shut => exact .of_none shut

theorem Takes.counted (h : Takes line b b') (tidy : b.Tidy) (counted : b.Counted) :
    b'.Counted := by
  cases h with
  | took some_line own fits done =>
    rename_i k
    rintro _ ⟨⟩
    obtain ⟨base, counts⟩ := counted k own
    have passes := (Sink.passes_put (tidy.fit k own) b.scene b.writer.refusals line).1
    rw [done, if_pos rfl] at passes
    exact ⟨base, counts.passes passes rfl rfl rfl⟩
  | shown last => exact .of_none (tidy.shut last)

theorem Goes.counted (h : Goes b b') (tidy : b.Tidy) (counted : b.Counted) : b'.Counted := by
  induction h with
  | refl => exact counted
  | tail first step ih => exact step.counted (Goes.falls first tidy).1.tidy ih

/-- A writer between two orders: at a level with a file, the file is open and its bytes are counted. -/
structure Steady (b : Bench) : Prop where
  tidy : b.Tidy
  counted : b.Counted
  stocked : b.writer.level = .stderr ∨ b.writer.sink ≠ none

/-- After a line the count is within the limit or is that of the line, unless the file could not be
begun anew. -/
def Within (b : Bench) (line : Bytes) : Prop :=
  b.missed = false → b.writer.sink ≠ none →
    b.writer.bytesWritten ≤ b.writer.config.maxSizeBytes ∨ b.writer.bytesWritten = line.length

theorem usesFile_of_base (own : b.writer.base? = some base) : b.writer.level.usesFile = true := by
  unfold Writer.base? at own
  split at own
  · rename_i level
    rw [level]
    rfl
  · rename_i level
    rw [level]
    rfl
  · cases own

theorem Takes.within (h : Takes line b b') (tidy : b.Tidy) (counted : b.Counted) :
    b'.Within line ∧ (b'.writer.level = .stderr ∨ b'.writer.sink ≠ none) := by
  cases h with
  | shown last => exact ⟨fun _ opened => absurd (tidy.shut last) opened, .inl last⟩
  | took some_line own fits done =>
    obtain ⟨base, counts⟩ := counted _ own
    refine ⟨fun hit _ => ?_, .inr (Option.some_ne_none _)⟩
    rcases fits with room | anew | missed
    · left
      rw [Writer.isFull, usesFile_of_base counts.own, Bool.and_true, decide_eq_false_iff_not] at room
      exact Nat.le_of_not_lt room
    · right
      exact (congrArg (· + line.length) anew).trans (Nat.zero_add _)
    · cases missed.symm.trans hit

theorem Steady.flushed (steady : b.Steady) {f : Scene → Writer → Scene × Writer}
    (flushes : Flushes f) : (b.does f).Steady := by
  refine ⟨steady.tidy.flushed flushes, steady.counted.flushed flushes, ?_⟩
  rw [((keepsOn_of_flushes flushes).level b).1]
  refine steady.stocked.imp_right fun opened => ?_
  obtain ⟨k, here⟩ := Option.ne_none_iff_exists'.mp opened
  obtain ⟨lastSync, same⟩ := flushes.opened (s := b.scene) here
  rw [does, same]
  exact Option.some_ne_none _

theorem Serves.steady (h : Serves line b b') (steady : b.Steady) : b'.Steady ∧ b'.Within line := by
  obtain ⟨b₁, b₂, goes, takes, ends⟩ := h
  have tidy := (goes.falls steady.tidy).1.tidy
  have counted := goes.counted steady.tidy steady.counted
  obtain ⟨within, stocked⟩ := takes.within tidy counted
  have steady₂ : b₂.Steady := ⟨takes.tidy tidy, takes.counted tidy counted, stocked⟩
  rcases ends with rfl | ⟨f, flushes, rfl⟩
  · exact ⟨steady₂, within⟩
  · have keeps := keepsOn_of_flushes flushes
    refine ⟨steady₂.flushed flushes, fun hit opened => ?_⟩
    rw [keeps.bytesWritten, (keeps.level b₂).2]
    refine within hit fun shut => opened ?_
    rw [does, flushes.shut shut]
    exact shut

theorem steady_start (s : Scene) (c : Config) (now : Nat) (refusals : List Bool)
    (trouble : Trouble) : (start s c now refusals trouble).Steady := by
  have tidy := (tidy_start s c now refusals trouble).1
  rcases start_cases s c now refusals trouble with
    ⟨b, b', file, size, config, shut, opens, same⟩ | ⟨b, config, shut, normal, goes, same⟩
  · rw [same] at tidy ⊢
    refine ⟨tidy, ?_, .inr (Option.some_ne_none _)⟩
    obtain ⟨finds, held⟩ := opened_finds opens
    obtain ⟨scene, trouble, rfl⟩ := openAppend_only opens
    rintro _ ⟨⟩
    refine ⟨c.path, congrArg (fun x : Config => some x.path) config, finds, fun d there => ?_⟩
    rw [held d there]
    rfl
  · have works : b.writer.level ≠ .discard := by
      rw [normal]
      exact Level.noConfusion
    rw [same] at tidy ⊢
    exact ⟨tidy, goes.counted (.of_none works shut) (.of_none shut), openFallback_stocked b⟩

theorem Steady.facing (steady : b.Steady) (h : Hour) : (b.facing h).Steady := by
  refine ⟨steady.tidy.facing b.scene h, fun k opened => ?_, steady.stocked⟩
  obtain ⟨base, counts⟩ := steady.counted k opened
  exact ⟨base, counts.own, counts.finds, counts.count⟩

theorem Steady.work (steady : b.Steady) (h : Hour) : (b.work h).Steady := by
  have ready := steady.facing h
  unfold Bench.work
  cases h.order with
  | entry now e => exact ((obey_serves ready.tidy.works now e).steady ready).1
  | flush => exact ready.flushed flushes_flush
  | sync now => exact ready.flushed (flushes_sync now)

theorem Steady.run (steady : b.Steady) (hours : List Hour) : (hours.foldl Bench.work b).Steady := by
  induction hours generalizing b with
  | nil => exact steady
  | cons h hours ih => exact ih (steady.work h)

theorem config_of_run (tidy : b.Tidy) (hours : List Hour) :
    (hours.foldl Bench.work b).writer.config = b.writer.config := by
  have falls := (falls_of_days tidy (hours.map fun h => ⟨h, id⟩)).2.1
  rwa [List.foldl_map] at falls

/-- What a line and all before it come to: no more than the limit, or the line alone. -/
theorem Within.fits (within : b.Within line) (counted : b.Counted) (has : b.Has line) {d : Bytes}
    (hit : b.missed = false) (opened : b.writer.sink = some k)
    (there : b.scene.tree.contents? k.file = some d) (anew : b.surplus = 0) :
    (d ++ k.bytes).length ≤ b.writer.config.maxSizeBytes ∨ d ++ k.bytes = line := by
  obtain ⟨base, counts⟩ := counted k opened
  have count := counts.count d there
  rw [anew, Nat.add_zero, ← List.length_append] at count
  rcases within hit (opened ▸ Option.some_ne_none k) with small | one
  · exact .inl (count ▸ small)
  · right
    rw [Has, opened] at has
    have last : line <:+ d ++ k.bytes := by
      rcases has with waits | ⟨nothing, there'⟩
      · exact waits.trans (List.suffix_append _ _)
      · rw [nothing, List.append_nil]
        exact there' d there
    exact (last.eq_of_length (one.symm.trans count)).symm

/-- Whatever is refused: at a level with a file, the file is open under its name, and the count with
what the file held when it was last begun anew is the file's size with what waits for it. If that was
nothing, and the file could be begun anew when it had to be, then after a line the file has no more
than the limit with what waits for it, or consists of the line. -/
theorem count_of_log (s : Scene) (c : Config) (began : Nat) (refusals : List Bool)
    (trouble : Trouble) (hours : List Hour) (h : Hour) :
    let first := start s c began refusals trouble
    let b := hours.foldl work first
    let done := b.work h
    (∀ base, b.writer.base? = some base →
      ∃ k, b.writer.sink = some k ∧ b.scene.tree.find base = .ok k.file ∧
        ∀ d, b.scene.tree.contents? k.file = some d →
          b.writer.bytesWritten + b.surplus = (d ++ k.bytes).length) ∧
    (∀ now e, h.order = .entry now e →
      ∀ k d, done.writer.sink = some k → done.scene.tree.contents? k.file = some d →
        done.missed = false → done.surplus = 0 →
        (d ++ k.bytes).length ≤ c.maxSizeBytes ∨ d ++ k.bytes = Text.utf8 e.line) ∧
    (trouble = .nothing → Writer.start s c began refusals = (first.scene, first.writer)) ∧
    (h.trouble = .nothing →
      ({ b.writer with refusals := h.refusals }).obey b.scene h.order =
        (done.scene, done.writer)) := by
  intro first b done
  have starts := steady_start s c began refusals trouble
  have steady : b.Steady := starts.run hours
  have config : b.writer.config = c :=
    (config_of_run starts.tidy hours).trans (tidy_start s c began refusals trouble).2
  have ready := steady.facing h
  refine ⟨fun base own => ?_, fun now e order k d opened there hit anew => ?_, ?_, ?_⟩
  · have not_errors : b.writer.level ≠ .stderr := by
      intro level
      have uses := usesFile_of_base own
      rw [level] at uses
      cases uses
    obtain ⟨k, opened⟩ := Option.ne_none_iff_exists'.mp (steady.stocked.resolve_left not_errors)
    obtain ⟨base', counts⟩ := steady.counted k opened
    cases own.symm.trans counts.own
    refine ⟨k, opened, counts.finds, fun d there => ?_⟩
    rw [List.length_append]
    exact counts.count d there
  · have serves := obey_serves (b := b.facing h) ready.tidy.works now e
    rw [← order] at serves
    obtain ⟨after, within⟩ := serves.steady ready
    have delivers := serves.delivers ready.tidy
    have fits := within.fits after.counted delivers.has hit opened there anew
    rwa [delivers.config.trans config] at fits
  · rintro rfl
    exact start_of_calm s c began refusals
  · exact work_of_calm b

end

end Bench

theorem count_on_a_shelf {s : Scene} {c : Config} {t : FileTree} {dir : NodeId} {name : Bytes}
    (made : parentsMade s.tree c.path = (t, .ok ()))
    (shelf : Shelf t c.path c.maxRotatedFiles dir name) (began : Nat) (orders : List Order) :
    ∃ s' w k d, Writer.atWork c [] s ⟨began, orders⟩ = (s', w) ∧ w.level = .normal ∧
      w.sink = some k ∧ s'.tree.contents? k.file = some d ∧
      (w.bytesWritten = (d ++ k.bytes).length ∨
        OneFile s'.tree c.maxRotatedFiles dir name k.file) := by
  obtain ⟨w, k, started, live⟩ := Live.start made shelf began
  obtain ⟨s', w', k', obeyed, live'⟩ := live.obeyAll orders
  obtain ⟨d, isOpen, count⟩ := live'.onDisk
  refine ⟨s', w', k', d, ?_, live'.level, live'.sink, isOpen.there, count⟩
  simp only [Writer.atWork, started, obeyed]

/-- A directory with the directory "l.1". -/
def heldPlace : FileTree :=
  ⟨#[.dir 0 [([108, 46, 49], 1)] false, .dir 0 [] false], 0⟩

/-- Two lines in the log "l", which cannot be renamed to "l.1". -/
def twoInPlace : Scene × Writer :=
  Writer.atWork smallLog [] ⟨heldPlace, ""⟩
    ⟨0, [.entry 0 shortEntry, .entry 0 shortEntry, .flush]⟩

/-- The log stays where it is and grows with each line, and the count is that of the last. -/
theorem count_forgets_what_stays :
    heldPlace.Sound ∧ twoInPlace.2.level = .normal ∧ twoInPlace.2.sink = some ⟨2, [], 0⟩ ∧
      twoInPlace.1.tree.find smallLog.path = .ok 2 ∧
      twoInPlace.1.tree.contents? 2 =
        some (Text.utf8 shortEntry.line ++ Text.utf8 shortEntry.line) ∧
      twoInPlace.2.bytesWritten = (Text.utf8 shortEntry.line).length ∧
      smallLog.maxSizeBytes < (Text.utf8 shortEntry.line).length :=
  ⟨FileTree.sound_of_nodes (by decide), by cbv, by cbv, by cbv, by cbv, by cbv, by decide⟩

end MountProbe.Journal
