import MountProbe.Proofs.FileTree.Opening
import MountProbe.Proofs.Journal.Course
import MountProbe.Proofs.Journal.Settled

namespace MountProbe.Journal

open FileTree (Grows)

def Sink.Passes (k : Sink) (t : FileTree) (came : Bytes) (k' : Sink) (u : FileTree) : Prop :=
  k'.file = k.file ∧ ∃ written, Grows k.file written t u ∧ written ++ k'.bytes = k.bytes ++ came

section

variable {s : Scene} {k : Sink} {refusals : List Bool} {line : Bytes}

theorem Sink.fit_flush (fit : k.Fit) : (k.flush s refusals).sink.Fit := by
  obtain ⟨es, course, -⟩ := k.flush_course default s refusals
  refine course.fit ?_ _ rfl
  rintro _ ⟨⟩
  exact fit

theorem Sink.fit_put (fit : k.Fit) (some_line : line ≠ []) :
    (k.put s refusals line).sink.Fit := by
  rcases k.put_course default s refusals fit some_line with ⟨es, course, -⟩ | ⟨same, -⟩
  · refine course.fit ?_ _ rfl
    rintro _ ⟨⟩
    exact fit
  · rw [same]
    exact fit_flush fit

theorem Sink.bytes_of_none (nothing : k.waiting = []) : k.bytes = [] := by
  rw [bytes, nothing]
  rfl

theorem Sink.passes_flush (k : Sink) (s : Scene) (refusals : List Bool) :
    k.Passes s.tree [] (k.flush s refusals).sink (k.flush s refusals).scene.tree := by
  cases done : (k.flush s refusals).done with
  | true =>
    obtain ⟨appended, -, file, nothing, -⟩ := flush_done done
    exact ⟨file, k.bytes, FileTree.grows_of_append appended, by rw [bytes_of_none nothing]⟩
  | false =>
    rw [(flush_refused done).2]
    exact ⟨rfl, [], .refl _ _, (List.append_nil _).symm⟩

theorem Sink.passes_makeRoom (k : Sink) (s : Scene) (refusals : List Bool) (size : Nat) :
    k.Passes s.tree [] (k.makeRoom s refusals size).sink
      (k.makeRoom s refusals size).scene.tree := by
  unfold makeRoom
  split
  · exact passes_flush k s refusals
  · exact ⟨rfl, [], .refl _ _, (List.append_nil _).symm⟩

theorem Sink.Passes.hold {t u : FileTree} {k' : Sink} (passes : k.Passes t [] k' u)
    (line : Bytes) : k.Passes t line (k'.hold line) u := by
  obtain ⟨file, written, grows, whole⟩ := passes
  refine ⟨file, written, grows, ?_⟩
  rw [bytes_hold, ← List.append_assoc, whole, List.append_nil]

/-- A line comes in if it is taken, and then it is the last that waits or nothing does. If it is
refused nothing comes in. -/
theorem Sink.passes_put (fit : k.Fit) (s : Scene) (refusals : List Bool) (line : Bytes) :
    k.Passes s.tree (if (k.put s refusals line).done then line else [])
        (k.put s refusals line).sink (k.put s refusals line).scene.tree ∧
      ((k.put s refusals line).done = true → line <:+ (k.put s refusals line).sink.bytes ∨
        (k.put s refusals line).sink.bytes = []) := by
  have last : ∀ k' : Sink, line <:+ (k'.hold line).bytes := fun k' => by
    rw [bytes_hold]
    exact List.suffix_append _ _
  unfold put
  split
  · have stays : k.Passes s.tree [] k s.tree := ⟨rfl, [], .refl _ _, (List.append_nil _).symm⟩
    exact ⟨stays.hold line, fun _ => .inl (last k)⟩
  rename_i no_room
  have made := passes_makeRoom k s refusals line.length
  have empty := makeRoom_course default s refusals fit no_room
  generalize k.makeRoom s refusals line.length = a at made empty
  obtain ⟨s', refusals', k', done⟩ := a
  cases done with
  | false => exact ⟨made, fun done => by cases done⟩
  | true =>
    simp only [Bool.not_true, Bool.false_eq_true, if_false]
    split
    · exact ⟨made.hold line, fun _ => .inl (last k')⟩
    · rename_i long
      -- The line is as long as the buffer, so nothing waits and it goes to the file at once.
      have nothing : k'.bytes = [] := by
        rcases empty with ⟨es, -, -, -, short | nothing⟩ | ⟨same, fails⟩
        · exact absurd short long
        · exact bytes_of_none nothing
        · rw [← same] at fails
          cases fails
      cases written : (k'.write s' refusals' line).done with
      | false =>
        obtain ⟨scene, sink⟩ := write_refused written
        rw [scene, sink]
        exact ⟨made, fun done => by cases done⟩
      | true =>
        obtain ⟨appended, -, sink⟩ := write_done written
        obtain ⟨file, before, grows, whole⟩ := made
        have lengthens := FileTree.grows_of_append appended
        rw [file] at lengthens
        rw [sink]
        refine ⟨⟨file, before ++ line, grows.trans lengthens, ?_⟩, fun _ => .inr nothing⟩
        rw [nothing] at whole ⊢
        rw [List.append_nil] at whole ⊢
        rw [whole, List.append_nil, if_pos rfl]

namespace Writer

/-- What waits is written, with or without a note of the time. -/
structure Flushes (f : Scene → Writer → Scene × Writer) : Prop where
  shut : ∀ {s : Scene} {w : Writer}, w.sink = none → f s w = (s, w)
  opened : ∀ {s : Scene} {w : Writer} {k : Sink}, w.sink = some k → ∃ lastSync,
    f s w = ((k.flush s w.refusals).scene, { w with
      sink := some (k.flush s w.refusals).sink
      refusals := (k.flush s w.refusals).refusals
      lastSync })

theorem flush_of_some {w : Writer} (here : w.sink = some k) :
    w.flush s = ((k.flush s w.refusals).scene, { w with
      sink := some (k.flush s w.refusals).sink
      refusals := (k.flush s w.refusals).refusals }) := by
  rw [flush, here]

theorem flushes_flush : Flushes flush where
  shut here := by rw [flush, here]
  opened here := ⟨_, flush_of_some here⟩

theorem flushes_sync (now : Nat) : Flushes fun s w => w.sync s now where
  shut here := by rw [sync, here]
  opened here := ⟨now, by simp only [sync, here, flush_of_some here]⟩

end Writer

end

end MountProbe.Journal
