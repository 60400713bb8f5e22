import Mathlib
import MountProbe.Proofs.Journal.Moves
import MountProbe.Proofs.Journal.Sessions

/-! Where lines go. Each level has one outlet, and a line goes to the outlet of the level that the
writer has come to when it is taken. Levels are only left for lower ones, and the one at which lines
are dropped is never reached. -/
namespace MountProbe.Journal

def Level.outlet? (c : Config) : Level → Option Outlet
  | .normal => some (.file c.path)
  | .fallback => c.fallback.map .file
  | .stderr => some .errors
  | .discard => none

/-- From one level through lower ones, one after the other, to the last. -/
inductive Descends (a : Level) : List Level → Level → Prop where
  | stays : Descends a [] a
  | falls {b d : Level} {ls : List Level} (first : Descends a ls b) (works : d ≠ .discard)
    (lower : d.left < b.left) : Descends a (ls ++ [d]) d

theorem Descends.length_le {a b : Level} {ls : List Level} (h : Descends a ls b) :
    ls.length + b.left ≤ a.left := by
  induction h with
  | stays => simp
  | falls first works lower ih =>
    rw [List.length_append, List.length_singleton]
    omega

theorem Descends.few {a b : Level} {ls : List Level} (h : Descends a ls b) : ls.length ≤ 2 := by
  have most : a.left ≤ 2 := by cases a <;> decide
  have := h.length_le
  omega

theorem Descends.trans {a b d : Level} {ls ms : List Level} (first : Descends a ls b)
    (last : Descends b ms d) : Descends a (ls ++ ms) d := by
  induction last with
  | stays => rwa [List.append_nil]
  | falls _ works lower ih =>
    rw [← List.append_assoc]
    exact ih.falls works lower

/-- The line is the last that waits for the file or, with none waiting, the last in it. -/
def Sink.Has (k : Sink) (t : FileTree) (line : Bytes) : Prop :=
  line <:+ k.bytes ∨ k.bytes = [] ∧ ∀ c, t.contents? k.file = some c → line <:+ c

section

variable {s : Scene} {k : Sink} {refusals : List Bool} {line : Bytes}

theorem Sink.has_put (fit : k.Fit) (done : (k.put s refusals line).done = true) :
    (k.put s refusals line).sink.Has (k.put s refusals line).scene.tree line := by
  obtain ⟨⟨file, written, grows, whole⟩, last⟩ := passes_put fit s refusals line
  refine (last done).imp_right fun nothing => ⟨nothing, fun d after => ?_⟩
  rw [file] at after
  obtain ⟨c, -, rfl⟩ := grows.contents d after
  rw [nothing, List.append_nil, if_pos done] at whole
  rw [whole, ← List.append_assoc]
  exact List.suffix_append _ _

theorem Sink.Has.flush (has : k.Has s.tree line) :
    (k.flush s refusals).sink.Has (k.flush s refusals).scene.tree line := by
  cases done : (k.flush s refusals).done with
  | false =>
    rw [(flush_refused done).2]
    exact has
  | true =>
    obtain ⟨appended, -, file, nothing, -⟩ := flush_done done
    refine .inr ⟨bytes_of_none nothing, fun d after => ?_⟩
    rw [file] at after
    obtain ⟨c, before, rfl⟩ := (FileTree.grows_of_append appended).contents d after
    rcases has with waits | ⟨none, there⟩
    · exact waits.trans (List.suffix_append _ _)
    · rw [none, List.append_nil]
      exact there c before

end

namespace Bench

open Writer (Flushes flushes_flush flushes_sync)

/-- The line has come to where it goes. -/
def Has (b : Bench) (line : Bytes) : Prop :=
  match b.writer.sink with
  | some k => k.Has b.scene.tree line
  | none => ∃ before, b.scene.errors = before ++ ("[MG-JSONL] " ++ line.lossy)

/-- A writer has not given up, and its file, if it has one, is that of its level. -/
structure Tidy (b : Bench) : Prop where
  works : b.writer.level ≠ .discard
  shut : b.writer.level = .stderr → b.writer.sink = none
  own : b.writer.sink ≠ none → b.writer.level.outlet? b.writer.config = some b.outlet
  fit : ∀ k, b.writer.sink = some k → k.Fit

section

variable {b b' : Bench} {line : Bytes}

theorem Tidy.of_none (works : b.writer.level ≠ .discard) (shut : b.writer.sink = none) : b.Tidy where
  works := works
  shut _ := shut
  own opened := absurd shut opened
  fit k opened := by cases shut.symm.trans opened

theorem Tidy.flushed (tidy : b.Tidy) {f : Scene → Writer → Scene × Writer}
    (flushes : Flushes f) : (b.does f).Tidy := by
  cases here : b.writer.sink with
  | none =>
    rw [does, flushes.shut here]
    exact tidy
  | some k =>
    have opened : b.writer.sink ≠ none := here ▸ Option.some_ne_none k
    obtain ⟨lastSync, same⟩ := flushes.opened (s := b.scene) here
    rw [does, same]
    refine ⟨tidy.works, fun out => absurd (tidy.shut out) opened, fun _ => tidy.own opened, ?_⟩
    rintro _ ⟨⟩
    exact Sink.fit_flush (tidy.fit k here)

theorem Tidy.tried (tidy : b.Tidy) {k : Sink} (here : b.writer.sink = some k)
    (some_line : line ≠ []) : (b.tried (k.put b.scene b.writer.refusals line)).Tidy := by
  have opened : b.writer.sink ≠ none := here ▸ Option.some_ne_none k
  refine ⟨tidy.works, fun out => absurd (tidy.shut out) opened, fun _ => tidy.own opened, ?_⟩
  rintro _ ⟨⟩
  exact Sink.fit_put (tidy.fit k here) some_line

theorem Tidy.of_new {p : Path} {file : NodeId} (opened : b.writer.sink = some ⟨file, [], 0⟩)
    (outlet : b.outlet = .file p)
    (own : b.writer.level.outlet? b.writer.config = some (.file p)) : b.Tidy where
  works out := by
    rw [out] at own
    cases own
  shut out := by
    rw [out] at own
    cases own
  own _ := own.trans (congrArg some outlet.symm)
  fit k here := by
    cases opened.symm.trans here
    exact Sink.fit_of_empty rfl rfl

theorem outlet_of_base {base : Path} (own : b.writer.base? = some base) :
    b.writer.level.outlet? b.writer.config = some (.file base) := by
  unfold Writer.base? at own
  split at own
  · rename_i level
    cases own
    rw [level]
    rfl
  · rename_i level
    rw [level, Level.outlet?, own]
    rfl
  · cases own

theorem Step.tidy (h : Step b b') (tidy : b.Tidy) : b'.Tidy := by
  cases h with
  | flushed flushes => exact tidy.flushed flushes
  | closed =>
    refine .of_none ?_ (Writer.sink_closeSink _ _)
    rw [(keepsOn_closeSink.level b).1]
    exact tidy.works
  | said | missed | turned => exact ⟨tidy.works, tidy.shut, tidy.own, tidy.fit⟩
  | refused some_line own fails => exact tidy.tried own some_line
  | renewed shut own opens =>
    have outlet := outlet_of_base own
    obtain ⟨scene, trouble, rfl⟩ := openAppend_only opens
    exact .of_new rfl rfl outlet
  | failed shut fails =>
    obtain ⟨scene, trouble, rfl⟩ := openAppend_only fails
    exact .of_none tidy.works shut
  | fell shut normal own opens =>
    obtain ⟨scene, trouble, rfl⟩ := openAppend_only opens
    exact .of_new rfl rfl (congrArg (Option.map Outlet.file) own)
  | ended shut uses => exact .of_none Level.noConfusion shut

theorem Takes.tidy (h : Takes line b b') (tidy : b.Tidy) : b'.Tidy := by
  cases h with
  | took some_line own fits done =>
    have tried := tidy.tried own some_line
    exact ⟨tried.works, tried.shut, tried.own, tried.fit⟩
  | shown last => exact ⟨tidy.works, tidy.shut, tidy.own, tidy.fit⟩

theorem Takes.has (h : Takes line b b') (tidy : b.Tidy) : b'.Has line := by
  cases h with
  | took some_line own fits done => exact Sink.has_put (tidy.fit _ own) done
  | shown last =>
    have shut : (b.shown line).writer.sink = none := tidy.shut last
    rw [Has, shut]
    exact ⟨b.scene.errors, rfl⟩

theorem Takes.handed (h : Takes line b b') (tidy : b.Tidy) :
    ∃ o, b'.handed = b.handed ++ [o] ∧
      b'.writer.level.outlet? b'.writer.config = some o := by
  cases h with
  | took some_line own fits done =>
    exact ⟨b.outlet, rfl, tidy.own (own ▸ Option.some_ne_none _)⟩
  | shown last => exact ⟨.errors, rfl, congrArg (Level.outlet? b.writer.config) last⟩

theorem Takes.level (h : Takes line b b') :
    b'.writer.level = b.writer.level ∧ b'.levels = b.levels ∧
      b'.writer.config = b.writer.config := by
  cases h <;> exact ⟨rfl, rfl, rfl⟩

theorem Has.flushed (has : b.Has line) {f : Scene → Writer → Scene × Writer}
    (flushes : Flushes f) : (b.does f).Has line := by
  cases here : b.writer.sink with
  | none =>
    rw [does, flushes.shut here]
    exact has
  | some k =>
    rw [Has, here] at has
    obtain ⟨lastSync, same⟩ := flushes.opened (s := b.scene) here
    rw [does, same]
    exact has.flush

/-- What stays as it is from one bench to the next, and how the level falls. -/
structure Falls (b b' : Bench) : Prop where
  tidy : b'.Tidy
  config : b'.writer.config = b.writer.config
  levels : ∃ ls, b'.levels = b.levels ++ ls ∧ Descends b.writer.level ls b'.writer.level

theorem Goes.falls (h : Goes b b') (tidy : b.Tidy) : Falls b b' ∧ b'.handed = b.handed := by
  induction h with
  | refl => exact ⟨⟨tidy, rfl, [], (List.append_nil _).symm, .stays⟩, rfl⟩
  | tail _ step ih =>
    obtain ⟨⟨tidy₁, config, ls, levels, descends⟩, handed⟩ := ih
    refine ⟨⟨step.tidy tidy₁, step.config.trans config, ?_⟩, step.handed.trans handed⟩
    rcases step.level with ⟨same, kept⟩ | ⟨works, lower, noted⟩
    · exact ⟨ls, kept.trans levels, by rwa [same]⟩
    · refine ⟨_, ?_, descends.falls works lower⟩
      rw [noted, levels, List.append_assoc]

/-- The line has gone to one outlet, that of the level that the writer has come to. -/
structure Delivers (line : Bytes) (b b' : Bench) : Prop extends Falls b b' where
  outlet : ∃ o, b'.handed = b.handed ++ [o] ∧
    b'.writer.level.outlet? b'.writer.config = some o
  has : b'.Has line

theorem Serves.delivers (h : Serves line b b') (tidy : b.Tidy) : Delivers line b b' := by
  obtain ⟨b₁, b₂, goes, takes, ends⟩ := h
  obtain ⟨⟨tidy₁, config, ls, levels, descends⟩, handed⟩ := goes.falls tidy
  obtain ⟨o, one, own⟩ := takes.handed tidy₁
  obtain ⟨level, none, same⟩ := takes.level
  have done : Delivers line b b₂ :=
    ⟨⟨takes.tidy tidy₁, same.trans config, ls, none.trans levels, by rwa [level]⟩,
      ⟨o, by rw [one, handed], own⟩, takes.has tidy₁⟩
  rcases ends with rfl | ⟨f, flushes, rfl⟩
  · exact done
  · obtain ⟨level, config⟩ := (keepsOn_of_flushes flushes).level b₂
    obtain ⟨⟨tidy₂, config₂, ls, levels, descends⟩, ⟨o, one, own⟩, has⟩ := done
    exact ⟨⟨tidy₂.flushed flushes, config.trans config₂, ls, levels, by rwa [level]⟩,
      ⟨o, one, by rwa [level, config]⟩, has.flushed flushes⟩

end

/-- One order, and what has become of the scene when it comes. -/
structure Day extends Hour where
  others : Scene → Scene

def live (b : Bench) (d : Day) : Bench :=
  ({ b with scene := d.others b.scene }).work d.toHour

section

variable {b : Bench}

theorem Tidy.facing (tidy : b.Tidy) (scene : Scene) (h : Hour) :
    (({ b with scene }).facing h).Tidy :=
  ⟨tidy.works, tidy.shut, tidy.own, tidy.fit⟩

theorem obey_falls (tidy : b.Tidy) (o : Order) : Falls b (b.obey o) := by
  cases o with
  | entry now e => exact ((obey_serves tidy.works now e).delivers tidy).toFalls
  | flush => exact (Goes.falls (.single (.flushed b flushes_flush)) tidy).1
  | sync now => exact (Goes.falls (.single (.flushed b (flushes_sync now))) tidy).1

theorem tidy_start (s : Scene) (c : Config) (now : Nat) (refusals : List Bool)
    (trouble : Trouble) :
    (start s c now refusals trouble).Tidy ∧ (start s c now refusals trouble).writer.config = c := by
  rcases start_cases s c now refusals trouble with
    ⟨b, b', file, size, config, shut, opens, same⟩ | ⟨b, config, shut, normal, goes, same⟩
  · obtain ⟨scene, trouble, rfl⟩ := openAppend_only opens
    rw [same]
    refine ⟨.of_new rfl rfl ?_, config⟩
    exact congrArg (fun c => some (Outlet.file c.path)) config
  · have works : b.writer.level ≠ .discard := by
      rw [normal]
      exact Level.noConfusion
    obtain ⟨falls, -⟩ := goes.falls (.of_none works shut)
    rw [same]
    exact ⟨falls.tidy, falls.config.trans config⟩

theorem falls_of_days (tidy : b.Tidy) (days : List Day) :
    (days.foldl live b).Tidy ∧ (days.foldl live b).writer.config = b.writer.config ∧
      ∃ ls, Descends b.writer.level ls (days.foldl live b).writer.level := by
  induction days generalizing b with
  | nil => exact ⟨tidy, rfl, [], .stays⟩
  | cons d days ih =>
    obtain ⟨tidy₁, config, ls, -, falls⟩ := obey_falls (tidy.facing (d.others b.scene) d.toHour)
      d.order
    obtain ⟨tidy₂, config₂, ms, later⟩ := ih tidy₁
    exact ⟨tidy₂, config₂.trans config, ls ++ ms, falls.trans later⟩

/-- Whatever the system refuses and whatever others do, a writer goes from its level only to lower
ones and never to the one at which lines are dropped. An order to write is done after at most two
such steps, and its line has gone to one outlet, that of the level then. -/
theorem each_line_has_one_outlet (s : Scene) (c : Config) (began : Nat) (refusals : List Bool)
    (trouble : Trouble) (days more : List Day) (scene : Scene) (h : Hour) :
    let first := start s c began refusals trouble
    let b := days.foldl live first
    let met := ({ b with scene }).facing h
    let done := met.obey h.order
    (b.writer.level ≠ .discard ∧
      ∃ ls, Descends b.writer.level ls (more.foldl live b).writer.level) ∧
    (∀ now e, h.order = .entry now e →
      Descends b.writer.level done.levels done.writer.level ∧ done.levels.length ≤ 2 ∧
      (∃ o, done.handed = [o] ∧ done.writer.level.outlet? c = some o) ∧
      done.Has (Text.utf8 e.line) ∧
      ∀ tries, 3 ≤ tries → met.writeLine tries now (Text.utf8 e.line) = done) ∧
    (trouble = .nothing → Writer.start s c began refusals = (first.scene, first.writer)) ∧
    (h.trouble = .nothing →
      ({ b.writer with refusals := h.refusals }).obey scene h.order = (done.scene, done.writer)) := by
  intro first b met done
  obtain ⟨tidy, config⟩ := tidy_start s c began refusals trouble
  obtain ⟨tidy₁, config₁, -⟩ := falls_of_days tidy days
  obtain ⟨-, -, later⟩ := falls_of_days tidy₁ more
  have ready : met.Tidy := tidy₁.facing scene h
  refine ⟨⟨tidy₁.works, later⟩, fun now e order => ?_, ?_, ?_⟩
  · have same : done = met.obey (.entry now e) := congrArg met.obey order
    rw [same]
    obtain ⟨⟨-, config₂, ls, levels, descends⟩, outlet, has⟩ :=
      (obey_serves ready.works now e).delivers ready
    rw [show (met.obey (.entry now e)).levels = ls from levels]
    rw [config₂.trans (config₁.trans config)] at outlet
    exact ⟨descends, descends.few, outlet, has, fun tries enough =>
      writeLine_of_enough now _ ready.works (left_lt_three _) enough⟩
  · rintro rfl
    exact start_of_calm s c began refusals
  · exact fun calm => work_of_calm { b with scene } calm

/-- A line for a log without another file, which cannot be opened again after a rotation. -/
def shutOut : Hour :=
  ⟨[], ⟨[some emptyPlace], []⟩, .entry 0 shortEntry⟩

theorem line_of_a_log_shut_out :
    let b := start ⟨emptyPlace, ""⟩ smallLog 0 [] .nothing
    (b.work shutOut).levels = [.stderr] ∧ (b.work shutOut).handed = [.errors] ∧
      (b.work shutOut).writer.level ≠ .discard ∧ (b.work shutOut).Has (Text.utf8 shortEntry.line) :=
  let b := start ⟨emptyPlace, ""⟩ smallLog 0 [] .nothing
  have now_and_later := each_line_has_one_outlet ⟨emptyPlace, ""⟩ smallLog 0 [] .nothing
  ⟨by cbv, by cbv, (now_and_later [⟨shutOut, id⟩] [] b.scene shutOut).1.1,
    ((now_and_later [] [] b.scene shutOut).2.1 0 shortEntry rfl).2.2.2.1⟩

end

end Bench

end MountProbe.Journal
