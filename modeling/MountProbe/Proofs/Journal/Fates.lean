import MountProbe.Proofs.Journal.Places
import MountProbe.Proofs.Journal.Sessions

/-! What has become of each line when a session is over, and which lines nobody finds: those that
waited for a file whose writes were refused twice in a row, the second time when it was closed. -/
namespace MountProbe.Journal

open FileTree

/-- No two writes in a row are refused. -/
def Lone (refusals : List Bool) : Prop :=
  ∀ before after, refusals ≠ before ++ true :: true :: after

section

variable {c : Config} {a b : Desk} {e : Deed} {es : List Deed} {s : Scene} {k : Sink}
  {refusals left : List Bool} {bytes content : Bytes} {lines : List Bytes}

theorem Lone.of_suffix (h : Lone refusals) (part : left <:+ refusals) : Lone left := by
  obtain ⟨before, rfl⟩ := part
  intro first after same
  exact h (before ++ first) after (by rw [same, List.append_assoc])

namespace Sink

theorem refusals_write : (k.write s refusals bytes).refusals = refusals.tail := by
  unfold write
  split
  · rfl
  · split <;> rfl

theorem refusals_flush : (k.flush s refusals).refusals <:+ refusals := by
  unfold flush
  split
  · exact List.suffix_refl _
  · dsimp only
    split <;> exact refusals_write ▸ List.tail_suffix _

theorem refused_of_file (there : s.tree.contents? k.file = some content)
    (fails : (k.write s refusals bytes).done = false) : ∃ rest, refusals = true :: rest := by
  unfold write at fails
  split at fails
  · exact ⟨_, rfl⟩
  · rw [append_of_contents there] at fails
    cases fails

end Sink

namespace Desk

theorem Step.refusals_suffix (h : Step c a e b) : b.refusals <:+ a.refusals := by
  cases h with
  | wrote _ => exact Sink.refusals_flush
  | passed _ _ | refused _ => exact Sink.refusals_write ▸ List.tail_suffix _
  | @gaveUp s k refusals left fails _ =>
    have first : (k.flush s refusals).refusals <:+ refusals := Sink.refusals_flush
    rw [fails] at first
    exact Sink.refusals_flush.trans first
  | took | closed | opened | missed | turned | noticed | showed => exact List.suffix_refl _

theorem Course.refusals_suffix (h : Course c a es b) : b.refusals <:+ a.refusals := by
  induction h with
  | refl => exact List.suffix_refl _
  | step _ last ih => exact last.refusals_suffix.trans ih

theorem Step.lines_of_gaveUp (h : Step c a (.gaveUp lines) b) : lines ≠ [] := by
  cases h with
  | gaveUp fails again =>
    intro nothing
    rw [List.reverse_eq_nil_iff] at nothing
    rw [Sink.flush, nothing] at again
    cases again

theorem Step.ne_gaveUp (h : Step c a e b) (placed : Placed c a) (lone : Lone a.refusals) :
    e ≠ .gaveUp lines := by
  rintro rfl
  cases h with
  | @gaveUp s k refusals left fails again =>
    obtain ⟨content, there⟩ := (placed.named k rfl).contents placed.stands
    have first : (k.flush s refusals).done = false := by rw [fails]
    obtain ⟨refused, same⟩ := Sink.flush_refused first
    obtain ⟨rest, rfl⟩ := Sink.refused_of_file there refused
    obtain ⟨rest', last⟩ := Sink.refused_of_file there (Sink.flush_refused again).1
    rw [fails] at same
    have next : left = rest := (congrArg Attempt.refusals same).trans Sink.refusals_write
    exact lone [] rest' (by rw [← next, last]; rfl)

theorem Course.ne_gaveUp (h : Course c a es b) (placed : Placed c a) (lone : Lone a.refusals) :
    ∀ e ∈ es, ∀ lines, e ≠ .gaveUp lines := by
  induction h with
  | refl => simp
  | step before last ih =>
    refine List.forall_mem_append.mpr ⟨ih, List.forall_mem_singleton.mpr fun lines => ?_⟩
    exact last.ne_gaveUp (before.places placed) (lone.of_suffix before.refusals_suffix)

theorem Course.lines_of_gaveUp (h : Course c a es b) (member : .gaveUp lines ∈ es) :
    lines ≠ [] := by
  induction h with
  | refl => cases member
  | step _ last ih =>
    rcases List.mem_append.mp member with earlier | now
    · exact ih earlier
    · rw [← List.mem_singleton.mp now] at last
      exact last.lines_of_gaveUp

end Desk

theorem mem_told_lost {line : Bytes} :
    (line, .lost) ∈ es.flatMap Deed.told ↔ ∃ lines, .gaveUp lines ∈ es ∧ line ∈ lines := by
  rw [List.mem_flatMap]
  constructor
  · rintro ⟨e, member, told⟩
    cases e with
    | gaveUp lines =>
      obtain ⟨l, here, same⟩ := List.mem_map.mp told
      cases same
      exact ⟨lines, member, here⟩
    | wrote i lines =>
      obtain ⟨_, _, same⟩ := List.mem_map.mp told
      cases same
    | passed | showed => cases List.mem_singleton.mp told
    | took | refused | closed | opened | missed | turned | noticed => cases told
  · rintro ⟨lines, member, here⟩
    exact ⟨_, member, List.mem_map.mpr ⟨line, here, rfl⟩⟩

end

/-- What a session came to: each line has one fate, files and the error output hold what they held
and the lines whose fate they are, and no others. -/
structure Accounted (c : Config) (refusals : List Bool) (s : Scene) (lines : List Bytes)
    (deeds : List Deed) (ended : Scene) : Prop where
  whole : ∀ line ∈ lines, Whole line
  fates : (deeds.flatMap Deed.told).map Prod.fst = lines
  files : ∀ i, ended.tree.text i =
    s.tree.text i ++ (linesWith (.file i) (deeds.flatMap Deed.told)).flatten
  errors : ended.errors = s.errors ++ String.join (deeds.map Deed.spoken)
  /-- A file with lines has a name of a log, unless it had the last one when the names moved on. -/
  names : c.Stands s.tree → ∀ line i, (line, .file i) ∈ deeds.flatMap Deed.told →
    c.Names ended.tree i ∨ ∃ e ∈ deeds, e.Drops c i
  /-- Lines are lost just when a buffer is given up. -/
  lost : (∃ line, (line, .lost) ∈ deeds.flatMap Deed.told) ↔ ∃ lines, .gaveUp lines ∈ deeds
  kept : c.Stands s.tree → Lone refusals → ∀ lines, .gaveUp lines ∉ deeds

/-- Whatever the tree and the paths, whichever writes are refused and whatever the orders: a session
is a course of steps after which each line that was given is accounted for. -/
theorem each_line_accounted {s : Scene} (sound : s.tree.Sound) (c : Config) (refusals : List Bool)
    (x : Session) :
    ∃ deeds left, Desk.Course c ⟨s, none, refusals⟩ deeds
        ⟨Writer.session c refusals s x, none, left⟩ ∧
      Accounted c refusals s (linesOf x.orders) deeds (Writer.session c refusals s x) := by
  obtain ⟨deeds, left, course, given⟩ := Writer.session_goes c refusals s x
  have start_sound : Desk.Sound ⟨s, none, refusals⟩ := ⟨sound, fun k here => by cases here⟩
  have start_placed : c.Stands s.tree → Desk.Placed c ⟨s, none, refusals⟩ := fun stands =>
    ⟨stands, fun k here => by cases here⟩
  refine ⟨deeds, left, course, fun line => whole_of_mem_linesOf, ?_, (course.text start_sound).2,
    course.spoken start_sound, ?_, ?_, ?_⟩
  · have order := course.order
    simp only [Desk.waiting, List.nil_append, List.append_nil] at order
    rw [← order, given]
  · intro stands line i told
    exact course.names_of_told (start_placed stands) told
  · constructor
    · rintro ⟨line, told⟩
      obtain ⟨lines, member, -⟩ := mem_told_lost.mp told
      exact ⟨lines, member⟩
    · rintro ⟨lines, member⟩
      obtain ⟨line, rest, rfl⟩ := List.exists_cons_of_ne_nil (course.lines_of_gaveUp member)
      exact ⟨line, mem_told_lost.mpr ⟨_, member, List.mem_cons_self⟩⟩
  · intro stands lone lines member
    exact course.ne_gaveUp (start_placed stands) lone _ member lines rfl

theorem sound_emptyPlace : emptyPlace.Sound :=
  sound_of_nodes (by decide)

theorem entry_of_an_empty_place_accounted :
    emptyPlace.Sound ∧ ∃ deeds left, Desk.Course smallLog ⟨⟨emptyPlace, ""⟩, none, [true]⟩ deeds
        ⟨Writer.session smallLog [true] ⟨emptyPlace, ""⟩ ⟨0, [.entry 0 shortEntry]⟩, none, left⟩ ∧
      Accounted smallLog [true] ⟨emptyPlace, ""⟩ (linesOf [.entry 0 shortEntry]) deeds
        (Writer.session smallLog [true] ⟨emptyPlace, ""⟩ ⟨0, [.entry 0 shortEntry]⟩) :=
  ⟨sound_emptyPlace, each_line_accounted (s := ⟨emptyPlace, ""⟩) sound_emptyPlace smallLog [true]
    ⟨0, [.entry 0 shortEntry]⟩⟩

/-- A directory in which "l" is a device without room. -/
def fullPlace : FileTree :=
  ⟨#[.dir 0 [([108], 1)] false, .full], 0⟩

/-- The log "l" with "f" to fall back to. -/
def sparedLog : Config where
  path := ⟨[108]⟩
  fallback := some ⟨[102]⟩
  maxSizeBytes := 65536
  maxRotatedFiles := 1
  fsyncSecs := 10

theorem openAppend_fullPlace :
    openAppend ⟨fullPlace, ""⟩ sparedLog.path = (⟨fullPlace, ""⟩, some (1, 0)) := by
  have plain : Plain [108] := by decide
  have above : parentsMade fullPlace ⟨[108]⟩ = (fullPlace, .ok ()) := by
    rw [parentsMade, parent?_of_plain plain]
    exact makeAll_of_isEmpty rfl
  have opens : fullPlace.openFile ⟨[108]⟩ = .ok (fullPlace, 1) := by
    refine openFile_of_spot (by decide) (spotOf_of_plain plain rfl) fun links => ?_
    rw [openSpot]
    rfl
  rw [openAppend_eq, show parentsMade _ sparedLog.path = _ from above]
  simp only [show fullPlace.openFile sparedLog.path = _ from opens]
  rfl

theorem write_fullPlace {line : Bytes} (some_line : line ≠ []) :
    fullPlace.append 1 line = .error .noSpace := by
  rw [append, if_neg (by simpa using some_line)]
  rfl

theorem flush_fullPlace {line : Bytes} (some_line : line ≠ []) :
    (⟨1, [line], 0 + line.length⟩ : Sink).flush ⟨fullPlace, ""⟩ [] =
      ⟨⟨fullPlace, ""⟩, [], ⟨1, [line], 0 + line.length⟩, false⟩ := by
  have bytes : (⟨1, [line], 0 + line.length⟩ : Sink).bytes = line := by simp [Sink.bytes]
  have refused : (⟨1, [line], 0 + line.length⟩ : Sink).write ⟨fullPlace, ""⟩ [] line =
      ⟨⟨fullPlace, ""⟩, [], ⟨1, [line], 0 + line.length⟩, false⟩ := by
    unfold Sink.write
    simp only [write_fullPlace some_line]
    rfl
  rw [Sink.flush, bytes, refused]
  rfl

/-- The entry waits, its write is refused and refused again when the file is closed, and there is no
trace of it: not in the log, and neither in the file to fall back to nor on the error output. -/
theorem entry_for_a_full_device_is_nowhere :
    linesOf [.entry 0 shortEntry] = [Text.utf8 shortEntry.line] ∧
      Text.utf8 shortEntry.line ≠ [] ∧ fullPlace.Sound ∧
      (Writer.session sparedLog [] ⟨fullPlace, ""⟩ ⟨0, [.entry 0 shortEntry]⟩).errors = "" ∧
      ∀ i, (Writer.session sparedLog [] ⟨fullPlace, ""⟩ ⟨0, [.entry 0 shortEntry]⟩).tree.text i =
        [] := by
  have some_line := (whole_line shortEntry).ne_nil
  have short : (Text.utf8 shortEntry.line).length < 65536 := by decide
  let w : Writer := ⟨sparedLog, some ⟨1, [], 0⟩, .normal, 0, 0, []⟩
  have started : Writer.start ⟨fullPlace, ""⟩ sparedLog 0 = (⟨fullPlace, ""⟩, w) := by
    rw [Writer.start, openAppend_fullPlace]
  have wrote : Writer.obeyAll ⟨fullPlace, ""⟩ w [.entry 0 shortEntry] = (⟨fullPlace, ""⟩, { w with
      sink := some ⟨1, [Text.utf8 shortEntry.line], 0 + (Text.utf8 shortEntry.line).length⟩
      bytesWritten := 0 + (Text.utf8 shortEntry.line).length }) := by
    have room : w.isFull (Text.utf8 shortEntry.line).length = false := by
      rw [Writer.isFull, Bool.and_eq_false_iff, decide_eq_false_iff_not]
      left
      change ¬65536 < 0 + _
      omega
    have one : Writer.obeyAll ⟨fullPlace, ""⟩ w [.entry 0 shortEntry] =
        w.writeLine 3 ⟨fullPlace, ""⟩ 0 (Text.utf8 shortEntry.line) := rfl
    rw [one, Writer.writeLine, room]
    simp only [Bool.false_eq_true, if_false, w, Sink.put, bufferSize, Nat.sub_zero, short, if_true]
    rfl
  have nothing : Writer.session sparedLog [] ⟨fullPlace, ""⟩ ⟨0, [.entry 0 shortEntry]⟩ =
      ⟨fullPlace, ""⟩ := by
    simp only [Writer.session, Writer.atWork, started, wrote, Writer.finish, Writer.flush,
      Writer.closeSink, w, flush_fullPlace some_line]
  refine ⟨rfl, some_line, sound_of_nodes (by decide), by rw [nothing], fun i => ?_⟩
  rw [nothing]
  cases i with
  | zero => rfl
  | succ i => cases i <;> simp [fullPlace, FileTree.text, contents?]

end MountProbe.Journal
