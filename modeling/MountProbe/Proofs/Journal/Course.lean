import MountProbe.Proofs.FileTree.Quiet
import MountProbe.Proofs.Journal.Orders

/-! What a writer does, one thing after another. Whatever the paths and whichever writes fail, its
work is a course of a few kinds of steps, and there is one kind in which lines are given up. -/
namespace MountProbe.Journal

def Config.bases (c : Config) : List Path :=
  c.path :: c.fallback.toList

/-- What is said on the error output besides lines. -/
def Config.notices (c : Config) : List String :=
  ["[MG-JSONL] primary path failed and no fallback configured, using stderr\n",
    "[MG-JSONL] both primary and fallback paths failed, using stderr\n",
    "[MG-JSONL] fallback write failed, using stderr\n"] ++
  c.fallback.toList.map fun p =>
    "[MG-JSONL] primary path failed, using fallback: " ++ p.display ++ "\n"

/-- What a writer works with. -/
structure Desk where
  scene : Scene
  sink : Option Sink
  refusals : List Bool

def Writer.desk (s : Scene) (w : Writer) : Desk :=
  ⟨s, w.sink, w.refusals⟩

inductive Deed where
  | took (line : Bytes)
  | wrote (file : NodeId) (lines : List Bytes)
  /-- A line went to the file at once. -/
  | passed (file : NodeId) (line : Bytes)
  | refused
  | closed
  /-- What waited was refused, and again when the file was closed. -/
  | gaveUp (lines : List Bytes)
  | opened (file : NodeId)
  | missed
  /-- The names of a log moved on. -/
  | turned (base : Path) (before : FileTree)
  | noticed (text : String)
  | showed (line : Bytes)

def Deed.given : Deed → List Bytes
  | took line | passed _ line | showed line => [line]
  | _ => []

inductive Desk.Step (c : Config) : Desk → Deed → Desk → Prop where
  | took {s : Scene} {k : Sink} {refusals : List Bool} {line : Bytes} (some_line : line ≠ []) :
    Desk.Step c ⟨s, some k, refusals⟩ (.took line) ⟨s, some (k.hold line), refusals⟩
  | wrote {s : Scene} {k : Sink} {refusals : List Bool}
    (done : (k.flush s refusals).done = true) :
    Desk.Step c ⟨s, some k, refusals⟩ (.wrote k.file k.waiting.reverse)
      ⟨(k.flush s refusals).scene, some (k.flush s refusals).sink, (k.flush s refusals).refusals⟩
  | passed {s : Scene} {k : Sink} {refusals : List Bool} {line : Bytes} (nothing : k.waiting = [])
    (done : (k.write s refusals line).done = true) :
    Desk.Step c ⟨s, some k, refusals⟩ (.passed k.file line)
      ⟨(k.write s refusals line).scene, some k, (k.write s refusals line).refusals⟩
  | refused {s : Scene} {k : Sink} {refusals : List Bool} {bytes : Bytes}
    (fails : (k.write s refusals bytes).done = false) :
    Desk.Step c ⟨s, some k, refusals⟩ .refused ⟨s, some k, (k.write s refusals bytes).refusals⟩
  | closed {s : Scene} {k : Sink} {refusals : List Bool} (nothing : k.waiting = []) :
    Desk.Step c ⟨s, some k, refusals⟩ .closed ⟨s, none, refusals⟩
  | gaveUp {s : Scene} {k : Sink} {refusals left : List Bool}
    (fails : k.flush s refusals = ⟨s, left, k, false⟩) (again : (k.flush s left).done = false) :
    Desk.Step c ⟨s, some k, refusals⟩ (.gaveUp k.waiting.reverse)
      ⟨s, none, (k.flush s left).refusals⟩
  | opened {s s' : Scene} {refusals : List Bool} {p : Path} {file : NodeId} {size : Nat}
    (own : p ∈ c.bases) (opens : openAppend s p = (s', some (file, size))) :
    Desk.Step c ⟨s, none, refusals⟩ (.opened file) ⟨s', some ⟨file, [], 0⟩, refusals⟩
  | missed {s s' : Scene} {refusals : List Bool} {p : Path} (own : p ∈ c.bases)
    (fails : openAppend s p = (s', none)) :
    Desk.Step c ⟨s, none, refusals⟩ .missed ⟨s', none, refusals⟩
  | turned {s : Scene} {refusals : List Bool} {base : Path} (own : base ∈ c.bases) :
    Desk.Step c ⟨s, none, refusals⟩ (.turned base s.tree)
      ⟨{ s with tree := Writer.makeWay base c.maxRotatedFiles s.tree }, none, refusals⟩
  | noticed {s : Scene} {sink : Option Sink} {refusals : List Bool} {text : String}
    (own : text ∈ c.notices) :
    Desk.Step c ⟨s, sink, refusals⟩ (.noticed text) ⟨s.complain text, sink, refusals⟩
  | showed {s : Scene} {refusals : List Bool} {line : Bytes} (some_line : line ≠ []) :
    Desk.Step c ⟨s, none, refusals⟩ (.showed line)
      ⟨s.complain ("[MG-JSONL] " ++ line.lossy), none, refusals⟩

inductive Desk.Course (c : Config) : Desk → List Deed → Desk → Prop where
  | refl (d : Desk) : Desk.Course c d [] d
  | step {a b d : Desk} {es : List Deed} {e : Deed} :
    Desk.Course c a es b → Desk.Step c b e d → Desk.Course c a (es ++ [e]) d

section

variable {c : Config} {a b d : Desk} {es fs : List Deed} {e : Deed} {s s' : Scene} {k : Sink}
  {refusals : List Bool} {line bytes : Bytes} {w w' : Writer} {given more : List Bytes}

theorem Desk.Course.one (h : Desk.Step c a e b) : Desk.Course c a [e] b :=
  .step (.refl a) h

theorem Desk.Course.trans (first : Desk.Course c a es b) (last : Desk.Course c b fs d) :
    Desk.Course c a (es ++ fs) d := by
  induction last with
  | refl => rwa [List.append_nil]
  | step _ h ih =>
    rw [← List.append_assoc]
    exact ih.step h

def Sink.Fit (k : Sink) : Prop :=
  k.waitingSize = k.bytes.length ∧ ∀ l ∈ k.waiting, l ≠ []

def Desk.Fit (d : Desk) : Prop :=
  ∀ k, d.sink = some k → k.Fit

theorem Sink.fit_hold (fit : k.Fit) (some_line : line ≠ []) : (k.hold line).Fit := by
  refine ⟨?_, List.forall_mem_cons.mpr ⟨some_line, fit.2⟩⟩
  rw [show (k.hold line).bytes = k.bytes ++ line by simp [bytes, hold], List.length_append, ← fit.1]
  rfl

theorem Sink.fit_of_empty (nothing : k.waiting = []) (size : k.waitingSize = 0) : k.Fit := by
  refine ⟨by rw [size, bytes, nothing]; rfl, ?_⟩
  rw [nothing]
  simp

theorem Sink.waiting_of_size (fit : k.Fit) (size : k.waitingSize = 0) : k.waiting = [] := by
  cases waits : k.waiting with
  | nil => rfl
  | cons l rest =>
    have first := fit.2 l (by rw [waits]; exact List.mem_cons_self)
    have none_left := fit.1
    rw [size, bytes, waits] at none_left
    exact absurd (List.length_eq_zero_iff.mp (by simp at none_left; omega)) first

theorem Sink.write_refused (fails : (k.write s refusals bytes).done = false) :
    (k.write s refusals bytes).scene = s ∧ (k.write s refusals bytes).sink = k := by
  unfold write at fails ⊢
  split
  · exact ⟨rfl, rfl⟩
  · split
    · simp_all
    · exact ⟨rfl, rfl⟩

theorem Sink.write_done (done : (k.write s refusals bytes).done = true) :
    s.tree.append k.file bytes = .ok (k.write s refusals bytes).scene.tree ∧
      (k.write s refusals bytes).scene.errors = s.errors ∧
      (k.write s refusals bytes).sink = k := by
  unfold write at done ⊢
  split
  · simp at done
  · split
    · rename_i tree written
      exact ⟨written, rfl, rfl⟩
    · simp_all

theorem Sink.flush_refused (fails : (k.flush s refusals).done = false) :
    (k.write s refusals k.bytes).done = false ∧
      k.flush s refusals = ⟨s, (k.write s refusals k.bytes).refusals, k, false⟩ := by
  have refused : (k.write s refusals k.bytes).done = false → _ := write_refused
  unfold flush at fails ⊢
  split at fails
  · cases fails
  · rename_i waits
    rw [if_neg waits]
    generalize k.write s refusals k.bytes = a at refused fails
    obtain ⟨s', refusals', k', done⟩ := a
    cases done with
    | true => cases fails
    | false =>
      obtain ⟨same, own⟩ := refused rfl
      cases same
      cases own
      exact ⟨rfl, rfl⟩

theorem Sink.flush_done (done : (k.flush s refusals).done = true) :
    s.tree.append k.file k.bytes = .ok (k.flush s refusals).scene.tree ∧
      (k.flush s refusals).scene.errors = s.errors ∧
      (k.flush s refusals).sink.file = k.file ∧ (k.flush s refusals).sink.waiting = [] ∧
      ((k.flush s refusals).sink = k ∨ (k.flush s refusals).sink.waitingSize = 0) := by
  unfold flush at done ⊢
  split
  · rename_i nothing
    have no_bytes : k.bytes = [] := by
      rw [bytes, List.isEmpty_iff.mp nothing]
      rfl
    refine ⟨?_, rfl, rfl, List.isEmpty_iff.mp nothing, .inl rfl⟩
    rw [no_bytes]
    rfl
  · rename_i waits
    rw [if_neg waits] at done
    have written : (k.write s refusals k.bytes).done = true := by
      by_contra fails
      rw [if_neg fails] at done
      exact fails done
    obtain ⟨appended, errors, -⟩ := write_done written
    simp only [written, if_true]
    exact ⟨appended, errors, rfl, rfl, .inr rfl⟩

theorem Desk.Step.fit (h : Desk.Step c a e b) (fit : a.Fit) : b.Fit := by
  cases h with
  | took some_line =>
    rintro k ⟨⟩
    exact Sink.fit_hold (fit _ rfl) some_line
  | wrote done =>
    rintro k ⟨⟩
    obtain ⟨-, -, -, nothing, same | size⟩ := Sink.flush_done done
    · rw [same]
      exact fit _ rfl
    · exact Sink.fit_of_empty nothing size
  | passed nothing done => exact fit
  | refused fails => exact fit
  | opened own opens =>
    rintro k ⟨⟩
    exact Sink.fit_of_empty rfl rfl
  | noticed own => exact fit
  | closed | gaveUp | missed | turned | showed =>
    rintro k ⟨⟩

theorem Desk.Course.fit (h : Desk.Course c a es b) (fit : a.Fit) : b.Fit := by
  induction h with
  | refl => exact fit
  | step _ last ih => exact last.fit ih

structure Goes (s : Scene) (w : Writer) (given : List Bytes) (s' : Scene) (w' : Writer) : Prop where
  config : w'.config = w.config
  course : ∃ es, Desk.Course w.config (w.desk s) es (w'.desk s') ∧ es.flatMap Deed.given = given

theorem Goes.refl (s : Scene) (w : Writer) : Goes s w [] s w :=
  ⟨rfl, [], .refl _, rfl⟩

theorem Goes.trans {t : Scene} {x : Writer} (first : Goes s w given s' w')
    (last : Goes s' w' more t x) : Goes s w (given ++ more) t x := by
  obtain ⟨config, es, course, came⟩ := first
  obtain ⟨config', fs, course', came'⟩ := last
  rw [config] at course'
  refine ⟨config'.trans config, es ++ fs, course.trans course', ?_⟩
  rw [List.flatMap_append, came, came']

theorem Goes.fit (h : Goes s w given s' w') (fit : (w.desk s).Fit) : (w'.desk s').Fit := by
  obtain ⟨-, es, course, -⟩ := h
  exact course.fit fit

theorem Sink.flush_course (c : Config) (s : Scene) (k : Sink) (refusals : List Bool) :
    ∃ es, Desk.Course c ⟨s, some k, refusals⟩ es
        ⟨(k.flush s refusals).scene, some (k.flush s refusals).sink,
          (k.flush s refusals).refusals⟩ ∧
      es.flatMap Deed.given = [] := by
  by_cases done : (k.flush s refusals).done = true
  · exact ⟨_, .one (.wrote done), rfl⟩
  · rw [Bool.not_eq_true] at done
    obtain ⟨fails, same⟩ := flush_refused done
    rw [same]
    exact ⟨_, .one (.refused fails), rfl⟩

theorem Sink.makeRoom_course (c : Config) (s : Scene) (refusals : List Bool) (fit : k.Fit)
    (no_room : ¬line.length < bufferSize - k.waitingSize) :
    (∃ es, Desk.Course c ⟨s, some k, refusals⟩ es
        ⟨(k.makeRoom s refusals line.length).scene,
          some (k.makeRoom s refusals line.length).sink,
          (k.makeRoom s refusals line.length).refusals⟩ ∧
      es.flatMap Deed.given = [] ∧ (k.makeRoom s refusals line.length).done = true ∧
      (line.length < bufferSize ∨ (k.makeRoom s refusals line.length).sink.waiting = [])) ∨
    k.makeRoom s refusals line.length = k.flush s refusals ∧
      (k.flush s refusals).done = false := by
  unfold makeRoom
  split
  · cases done : (k.flush s refusals).done with
    | true => exact .inl ⟨_, .one (.wrote done), rfl, rfl, .inr (flush_done done).2.2.2.1⟩
    | false => exact .inr ⟨rfl, rfl⟩
  · refine .inl ⟨[], .refl _, rfl, rfl, ?_⟩
    rw [Classical.or_iff_not_imp_left]
    intro long
    have size : k.waitingSize = 0 := by
      unfold bufferSize at *
      omega
    exact waiting_of_size fit size

/-- A line that is taken comes in. One that is not has either found that what waits is refused, or
nothing waits any more. -/
theorem Sink.put_course (c : Config) (s : Scene) (refusals : List Bool) (fit : k.Fit)
    (some_line : line ≠ []) :
    (∃ es, Desk.Course c ⟨s, some k, refusals⟩ es
        ⟨(k.put s refusals line).scene, some (k.put s refusals line).sink,
          (k.put s refusals line).refusals⟩ ∧
      es.flatMap Deed.given = (if (k.put s refusals line).done then [line] else []) ∧
      ((k.put s refusals line).done = true ∨ (k.put s refusals line).sink.waiting = [])) ∨
    k.put s refusals line = k.flush s refusals ∧ (k.flush s refusals).done = false := by
  unfold put
  split
  · exact .inl ⟨_, .one (.took some_line), rfl, .inl rfl⟩
  rename_i no_room
  rcases makeRoom_course c s refusals fit no_room with
    ⟨es, course, none_given, done, empty⟩ | ⟨same, fails⟩
  · left
    generalize k.makeRoom s refusals line.length = a at course done empty
    obtain ⟨s', refusals', k', made⟩ := a
    cases show made = true from done
    simp only [Bool.not_true, Bool.false_eq_true, if_false]
    split
    · refine ⟨_, course.step (.took some_line), ?_, .inl rfl⟩
      rw [List.flatMap_append, none_given]
      rfl
    · rename_i long
      have nothing := empty.resolve_left long
      cases written : (k'.write s' refusals' line).done with
      | true =>
        have own := (write_done written).2.2
        refine ⟨_, by rw [own]; exact course.step (.passed nothing written), ?_, .inl rfl⟩
        rw [List.flatMap_append, none_given]
        rfl
      | false =>
        obtain ⟨same, own⟩ := write_refused written
        refine ⟨_, by rw [same, own]; exact course.step (.refused written), ?_,
          .inr (by rw [own]; exact nothing)⟩
        rw [List.flatMap_append, none_given]
        rfl
  · right
    rw [same]
    simp only [fails, Bool.not_false, if_true]
    exact ⟨trivial, trivial⟩

structure Writer.Tidy (w : Writer) : Prop where
  works : w.level ≠ .discard
  shut : w.level = .stderr → w.sink = none

/-- So many levels are there to fall back to. -/
def Level.left : Level → Nat
  | .normal => 2
  | .fallback => 1
  | .stderr | .discard => 0

theorem Level.usesFile_of_ne {level : Level} (not_stderr : level ≠ .stderr)
    (not_discard : level ≠ .discard) : level.usesFile = true := by
  cases level with
  | normal | fallback => rfl
  | stderr => exact absurd rfl not_stderr
  | discard => exact absurd rfl not_discard

namespace Writer

theorem flush_goes (s : Scene) (w : Writer) : Goes s w [] (w.flush s).1 (w.flush s).2 := by
  unfold flush
  split
  · exact .refl s w
  · rename_i k here
    obtain ⟨es, course, none_given⟩ := k.flush_course w.config s w.refusals
    refine ⟨rfl, es, ?_, none_given⟩
    rw [desk, here]
    exact course

theorem sink_closeSink (s : Scene) (w : Writer) : (w.closeSink s).2.sink = none := by
  unfold closeSink
  split
  · assumption
  · rfl

theorem level_closeSink (s : Scene) (w : Writer) : (w.closeSink s).2.level = w.level := by
  unfold closeSink
  split <;> rfl

theorem level_flush (s : Scene) (w : Writer) : (w.flush s).2.level = w.level := by
  unfold flush
  split <;> rfl

theorem closeSink_goes {s : Scene} {w : Writer} (nothing : ∀ k, w.sink = some k → k.waiting = []) :
    Goes s w [] (w.closeSink s).1 (w.closeSink s).2 := by
  unfold closeSink
  split
  · exact .refl s w
  · rename_i k here
    refine ⟨rfl, [.closed], ?_, rfl⟩
    rw [desk, here, Sink.flush, nothing k here]
    exact .one (.closed (nothing k here))

/-- A file is closed after what waits was to be written. -/
theorem shut_goes (s : Scene) (w : Writer) :
    Goes s w [] ((w.flush s).2.closeSink (w.flush s).1).1
      ((w.flush s).2.closeSink (w.flush s).1).2 := by
  cases here : w.sink with
  | none =>
    have same : w.flush s = (s, w) := by rw [flush, here]
    rw [same]
    exact closeSink_goes fun k other => by cases here.symm.trans other
  | some k =>
    have flushed : w.flush s = ((k.flush s w.refusals).scene, { w with
        sink := some (k.flush s w.refusals).sink
        refusals := (k.flush s w.refusals).refusals }) := by
      rw [flush, here]
    cases done : (k.flush s w.refusals).done with
    | true =>
      refine (flush_goes s w).trans (closeSink_goes fun l own => ?_)
      rw [flushed] at own
      cases own
      exact (Sink.flush_done done).2.2.2.1
    | false =>
      obtain ⟨fails, same⟩ := Sink.flush_refused done
      rw [flushed, same]
      have tries := Desk.Step.refused (c := w.config) fails
      generalize (k.write s w.refusals k.bytes).refusals = left at same tries
      refine ⟨rfl, ?_⟩
      rw [desk, here]
      cases again : (k.flush s left).done with
      | true =>
        exact ⟨_, ((Desk.Course.one tries).step (.wrote again)).step
          (.closed (Sink.flush_done again).2.2.2.1), rfl⟩
      | false =>
        have gave_up := Desk.Step.gaveUp (c := w.config) same again
        refine ⟨[.gaveUp k.waiting.reverse], .one ?_, rfl⟩
        rw [show desk (closeSink s { w with sink := some k, refusals := left }).1 _ =
          ⟨(k.flush s left).scene, none, (k.flush s left).refusals⟩ from rfl,
          (Sink.flush_refused again).2]
        rwa [(Sink.flush_refused again).2] at gave_up

theorem openFallback_goes {s : Scene} {w : Writer} (shut : w.sink = none) :
    Goes s w [] (w.openFallback s).1 (w.openFallback s).2 ∧ (w.openFallback s).2.Tidy ∧
      (w.openFallback s).2.level.left ≤ 1 := by
  unfold openFallback
  split
  · rename_i no_fallback
    have notice : Desk.Step w.config (w.desk s) (.noticed _) _ :=
      .noticed (List.mem_append_left _ List.mem_cons_self)
    exact ⟨⟨rfl, [.noticed _], .one notice, rfl⟩, ⟨by simp, fun _ => shut⟩, Nat.zero_le _⟩
  · rename_i p fallback
    have own : p ∈ w.config.bases := by simp [Config.bases, fallback]
    split
    · rename_i s' file size opens
      have notice : "[MG-JSONL] primary path failed, using fallback: " ++ p.display ++ "\n" ∈
          w.config.notices := by
        simp [Config.notices, fallback]
      have opened : Desk.Step w.config ⟨s, none, w.refusals⟩ _ _ := .opened own opens
      have course := (Desk.Course.one opened).step (.noticed notice)
      rw [← shut] at course
      exact ⟨⟨rfl, _, course, rfl⟩, ⟨by simp, by simp⟩, Nat.le_refl _⟩
    · rename_i s' fails
      have notice : "[MG-JSONL] both primary and fallback paths failed, using stderr\n" ∈
          w.config.notices := by
        simp [Config.notices]
      have missed : Desk.Step w.config ⟨s, none, w.refusals⟩ _ _ := .missed own fails
      have course := (Desk.Course.one missed).step (.noticed notice)
      rw [← shut] at course
      exact ⟨⟨rfl, _, course, rfl⟩, ⟨by simp, fun _ => shut⟩, Nat.zero_le _⟩

theorem degrade_goes {s₀ s : Scene} {w₀ w : Writer}
    (closes : Goes s₀ w₀ [] (w.closeSink s).1 (w.closeSink s).2)
    (uses : w.level.usesFile = true) :
    Goes s₀ w₀ [] (w.degrade s).1 (w.degrade s).2 ∧ (w.degrade s).2.Tidy ∧
      (w.degrade s).2.level.left < w.level.left := by
  have level := level_closeSink s w
  have shut := sink_closeSink s w
  unfold degrade
  generalize w.closeSink s = x at closes level shut
  obtain ⟨s', w'⟩ := x
  dsimp only at closes level shut ⊢
  rw [level]
  cases own : w.level with
  | normal =>
    obtain ⟨opens, tidy, few⟩ := openFallback_goes (s := s') shut
    exact ⟨closes.trans opens, tidy, Nat.lt_succ_of_le few⟩
  | fallback =>
    have notice : "[MG-JSONL] fallback write failed, using stderr\n" ∈ w'.config.notices := by
      simp [Config.notices]
    have tells : Goes s' w' [] _ { w' with level := .stderr } :=
      ⟨rfl, [.noticed _], .one (.noticed notice), rfl⟩
    exact ⟨closes.trans tells, ⟨by simp, fun _ => shut⟩, Nat.one_pos⟩
  | stderr => simp [own, Level.usesFile] at uses
  | discard => simp [own, Level.usesFile] at uses

theorem mem_bases {w : Writer} {base : Path} (own : w.base? = some base) :
    base ∈ w.config.bases := by
  unfold base? at own
  split at own
  · rw [← Option.some.inj own]
    exact List.mem_cons_self
  · simp [Config.bases, own]
  · cases own

theorem rotate_goes {s : Scene} {w : Writer} (uses : w.level.usesFile = true) :
    Goes s w [] (w.rotate s).1 (w.rotate s).2 ∧ (w.rotate s).2.Tidy ∧
      (w.rotate s).2.level.left ≤ w.level.left := by
  have shuts := w.shut_goes s
  have level := (level_closeSink (w.flush s).1 (w.flush s).2).trans (level_flush s w)
  have shut := sink_closeSink (w.flush s).1 (w.flush s).2
  unfold rotate
  generalize w.flush s = x at shuts level shut
  obtain ⟨s₁, w₁⟩ := x
  dsimp only at shuts level shut ⊢
  generalize w₁.closeSink s₁ = y at shuts level shut
  obtain ⟨s₂, w₂⟩ := y
  dsimp only at shuts level shut ⊢
  rw [← level] at uses ⊢
  have works : w₂.level ≠ .discard := by
    intro out
    rw [out] at uses
    cases uses
  split
  · exact ⟨shuts, ⟨works, fun _ => shut⟩, Nat.le_refl _⟩
  · rename_i base own
    have turned : Desk.Step w₂.config ⟨s₂, none, w₂.refusals⟩ _ _ := .turned (mem_bases own)
    have turn := Desk.Course.one turned
    split
    · rename_i s₃ file size opens
      have course := turn.step (.opened (mem_bases own) opens)
      rw [← shut] at course
      refine ⟨shuts.trans ⟨rfl, _, course, rfl⟩, ⟨works, fun out => ?_⟩, Nat.le_refl _⟩
      rw [show w₂.level = .stderr from out] at uses
      cases uses
    · rename_i s₃ fails
      have course := turn.step (.missed (mem_bases own) fails)
      have misses : Goes s₂ w₂ [] s₃ w₂ := ⟨rfl, _, by rw [desk, desk, shut]; exact course, rfl⟩
      have closes : Goes s₃ w₂ [] (w₂.closeSink s₃).1 (w₂.closeSink s₃).2 :=
        closeSink_goes fun k other => by cases shut.symm.trans other
      obtain ⟨falls, tidy, fewer⟩ := degrade_goes ((shuts.trans misses).trans closes) uses
      exact ⟨falls, tidy, Nat.le_of_lt fewer⟩

theorem sync_goes (s : Scene) (w : Writer) (now : Nat) :
    Goes s w [] (w.sync s now).1 (w.sync s now).2 := by
  unfold sync
  split
  · exact .refl s w
  · obtain ⟨config, course⟩ := w.flush_goes s
    exact ⟨config, course⟩

theorem Tidy.flush {s : Scene} {w : Writer} (tidy : w.Tidy) : (w.flush s).2.Tidy := by
  unfold Writer.flush
  split
  · exact tidy
  · rename_i k here
    refine ⟨tidy.works, fun out => ?_⟩
    rw [tidy.shut out] at here
    cases here

theorem Tidy.sync {s : Scene} {w : Writer} {now : Nat} (tidy : w.Tidy) :
    (w.sync s now).2.Tidy := by
  unfold Writer.sync
  split
  · exact tidy
  · exact ⟨tidy.flush.works, tidy.flush.shut⟩

theorem turn_goes {s : Scene} {w : Writer} (tidy : w.Tidy) (size : Nat) :
    Goes s w [] (if w.isFull size then w.rotate s else (s, w)).1
        (if w.isFull size then w.rotate s else (s, w)).2 ∧
      (if w.isFull size then w.rotate s else (s, w)).2.Tidy ∧
      (if w.isFull size then w.rotate s else (s, w)).2.level.left ≤ w.level.left := by
  split
  · rename_i full
    exact rotate_goes (Bool.and_eq_true_iff.mp full).2
  · exact ⟨.refl s w, tidy, Nat.le_refl _⟩

def tried (w : Writer) (a : Attempt) : Writer :=
  { w with sink := some a.sink, refusals := a.refusals }

/-- A line that is taken comes in. After one that is not, the file can be closed. -/
theorem put_goes {s : Scene} {w : Writer} (here : w.sink = some k) (fit : k.Fit)
    (some_line : line ≠ []) :
    ((k.put s w.refusals line).done = true →
      Goes s w [line] (k.put s w.refusals line).scene
        { w.tried (k.put s w.refusals line) with
          bytesWritten := w.bytesWritten + line.length }) ∧
    ((k.put s w.refusals line).done = false →
      Goes s w []
        ((w.tried (k.put s w.refusals line)).closeSink (k.put s w.refusals line).scene).1
        ((w.tried (k.put s w.refusals line)).closeSink (k.put s w.refusals line).scene).2) := by
  rcases k.put_course w.config s w.refusals fit some_line with
    ⟨es, course, taken, empty⟩ | ⟨same, fails⟩
  · generalize k.put s w.refusals line = a at course taken empty
    obtain ⟨s₂, refusals₂, k₂, done⟩ := a
    rw [← here] at course
    constructor
    · rintro ⟨⟩
      exact ⟨rfl, es, course, taken⟩
    · rintro ⟨⟩
      have fails : Goes s w [] s₂ (w.tried ⟨s₂, refusals₂, k₂, false⟩) :=
        ⟨rfl, es, course, taken⟩
      refine fails.trans (closeSink_goes fun l other => ?_)
      cases other
      exact empty.resolve_left Bool.false_ne_true
  · rw [same, fails]
    refine ⟨fun done => absurd done Bool.false_ne_true, fun _ => ?_⟩
    have shuts := shut_goes s w
    rwa [flush, here] at shuts

/-- The line is taken while there are more tries than levels to fall back to. -/
theorem writeLine_goes {tries : Nat} {s : Scene} {w : Writer} (now : Nat) (tidy : w.Tidy)
    (fit : (w.desk s).Fit) (some_line : line ≠ []) (enough : w.level.left < tries) :
    Goes s w [line] (w.writeLine tries s now line).1 (w.writeLine tries s now line).2 ∧
      (w.writeLine tries s now line).2.Tidy := by
  induction tries generalizing s w with
  | zero => cases enough
  | succ tries ih =>
    have turn := turn_goes (s := s) tidy line.length
    rw [writeLine]
    generalize (if w.isFull line.length then w.rotate s else (s, w)) = x at turn
    obtain ⟨s₁, w₁⟩ := x
    obtain ⟨turns, tidy₁, left₁⟩ := turn
    dsimp only at turns tidy₁ left₁ ⊢
    have fit₁ := turns.fit fit
    -- After falling back the line is tried again, with fewer levels left.
    have again : ∀ {s₂ : Scene} {w₂ : Writer},
        Goes s₁ w₁ [] (w₂.closeSink s₂).1 (w₂.closeSink s₂).2 → w₂.level = w₁.level →
        w₁.level.usesFile = true →
        Goes s w [line] (writeLine tries (w₂.degrade s₂).1 (w₂.degrade s₂).2 now line).1
          (writeLine tries (w₂.degrade s₂).1 (w₂.degrade s₂).2 now line).2 ∧
        (writeLine tries (w₂.degrade s₂).1 (w₂.degrade s₂).2 now line).2.Tidy := by
      intro s₂ w₂ closes same uses
      obtain ⟨falls, tidy₃, left₃⟩ := degrade_goes closes (by rwa [same])
      rw [same] at left₃
      obtain ⟨rest, tidy₄⟩ := ih tidy₃ (falls.fit fit₁) (by omega)
      exact ⟨(turns.trans falls).trans rest, tidy₄⟩
    split
    · rename_i out
      exact absurd out tidy₁.works
    · rename_i errs
      have shown : Desk.Step w₁.config ⟨s₁, none, w₁.refusals⟩ _ _ := .showed some_line
      rw [← tidy₁.shut errs] at shown
      exact ⟨turns.trans ⟨rfl, [.showed line], .one shown, rfl⟩, tidy₁⟩
    · rename_i not_discard not_stderr
      have uses : w₁.level.usesFile = true := Level.usesFile_of_ne not_stderr not_discard
      split
      · rename_i nothing
        exact again (closeSink_goes fun k other => by cases nothing.symm.trans other) rfl uses
      · rename_i k here
        obtain ⟨takes, fails⟩ := put_goes (s := s₁) here (fit₁ k here) some_line
        cases done : (k.put s₁ w₁.refusals line).done with
        | true =>
          have puts := turns.trans (takes done)
          rw [if_pos rfl]
          split
          · exact ⟨puts.trans (sync_goes _ _ now),
              Tidy.sync ⟨tidy₁.works, fun out => absurd out not_stderr⟩⟩
          · exact ⟨puts, ⟨tidy₁.works, fun out => absurd out not_stderr⟩⟩
        | false => exact again (fails done) rfl uses

theorem obey_goes {s : Scene} {w : Writer} (tidy : w.Tidy) (fit : (w.desk s).Fit) (o : Order) :
    Goes s w o.line?.toList (w.obey s o).1 (w.obey s o).2 ∧ (w.obey s o).2.Tidy := by
  cases o with
  | entry now e =>
    refine writeLine_goes now tidy fit (whole_line e).ne_nil ?_
    cases w.level <;> decide
  | flush => exact ⟨flush_goes s w, tidy.flush⟩
  | sync now => exact ⟨sync_goes s w now, tidy.sync⟩

theorem obeyAll_goes {s : Scene} {w : Writer} (tidy : w.Tidy) (fit : (w.desk s).Fit)
    (orders : List Order) :
    Goes s w (linesOf orders) (w.obeyAll s orders).1 (w.obeyAll s orders).2 := by
  induction orders generalizing s w with
  | nil => exact .refl s w
  | cons o orders ih =>
    obtain ⟨first, tidy₁⟩ := obey_goes tidy fit o
    rw [linesOf_cons, obeyAll_cons]
    exact first.trans (ih tidy₁ (first.fit fit))

theorem start_goes (s : Scene) (c : Config) (now : Nat) (refusals : List Bool) :
    (∃ es, Desk.Course c ⟨s, none, refusals⟩ es
        ((start s c now refusals).2.desk (start s c now refusals).1) ∧
      es.flatMap Deed.given = []) ∧
    (start s c now refusals).2.config = c ∧ (start s c now refusals).2.Tidy := by
  have own : c.path ∈ c.bases := List.mem_cons_self
  unfold start
  dsimp only
  split
  · rename_i s' file size opens
    exact ⟨⟨_, .one (.opened own opens), rfl⟩, rfl, ⟨by simp, by simp⟩⟩
  · rename_i s' fails
    let w : Writer := ⟨c, none, .discard, 0, now, refusals⟩
    have missed : Desk.Step c ⟨s, none, refusals⟩ _ _ := .missed own fails
    obtain ⟨⟨config, es, course, none_given⟩, tidy, -⟩ := openFallback_goes (s := s') (w := w) rfl
    exact ⟨⟨_, (Desk.Course.one missed).trans course, by
      rw [List.flatMap_append, none_given]; rfl⟩, config, tidy⟩

theorem finish_goes (s : Scene) (w : Writer) :
    ∃ es left, Desk.Course w.config (w.desk s) es ⟨w.finish s, none, left⟩ ∧
      es.flatMap Deed.given = [] := by
  obtain ⟨-, es, course, none_given⟩ := w.shut_goes s
  have shut := sink_closeSink (w.flush s).1 (w.flush s).2
  refine ⟨es, ((w.flush s).2.closeSink (w.flush s).1).2.refusals, ?_, none_given⟩
  rw [← shut]
  exact course

theorem session_goes (c : Config) (refusals : List Bool) (s : Scene) (x : Session) :
    ∃ es left, Desk.Course c ⟨s, none, refusals⟩ es ⟨session c refusals s x, none, left⟩ ∧
      es.flatMap Deed.given = linesOf x.orders := by
  obtain ⟨⟨es₁, starts, none_given₁⟩, config, tidy⟩ := start_goes s c x.began refusals
  have works := obeyAll_goes tidy (starts.fit fun k opened => by cases opened) x.orders
  have same := works.config.trans config
  obtain ⟨-, es₂, course₂, given₂⟩ := works
  obtain ⟨es₃, left, ends, none_given₃⟩ := finish_goes (atWork c refusals s x).1
    (atWork c refusals s x).2
  rw [config] at course₂
  rw [show (atWork c refusals s x).2.config = c from same] at ends
  refine ⟨es₁ ++ es₂ ++ es₃, left, (starts.trans course₂).trans ends, ?_⟩
  rw [List.flatMap_append, List.flatMap_append, none_given₁, given₂, none_given₃, List.append_nil,
    List.nil_append]

end Writer

end

end MountProbe.Journal
