import Mathlib.Logic.Relation
import MountProbe.Proofs.Journal.Sinks
import MountProbe.Proofs.Journal.Trouble

namespace MountProbe.Journal.Bench

open Writer (Flushes flushes_flush flushes_sync)

/-- One thing that a writer does besides taking lines. -/
inductive Step : Bench → Bench → Prop where
  | flushed (b : Bench) {f : Scene → Writer → Scene × Writer} (flushes : Flushes f) :
    Step b (b.does f)
  | closed (b : Bench) : Step b (b.does Writer.closeSink)
  | said (b : Bench) (text : String) : Step b (b.say text)
  | missed (b : Bench) : Step b b.miss
  /-- What waited for the file, or the line itself, has been refused. -/
  | refused {b : Bench} {k : Sink} {line : Bytes} (some_line : line ≠ [])
    (own : b.writer.sink = some k)
    (fails : (k.put b.scene b.writer.refusals line).done = false) :
    Step b (b.tried (k.put b.scene b.writer.refusals line))
  | turned {b : Bench} (shut : b.writer.sink = none) (base : Path) : Step b (b.turn base)
  | renewed {b b' : Bench} {base : Path} {file : NodeId} {size : Nat}
    (shut : b.writer.sink = none) (own : b.writer.base? = some base)
    (opens : b.openAppend base = (b', some (file, size))) : Step b (b'.renew base file size)
  | failed {b b' : Bench} {p : Path} (shut : b.writer.sink = none)
    (fails : b.openAppend p = (b', none)) : Step b b'
  | fell {b b' : Bench} {p : Path} {file : NodeId} {size : Nat} (shut : b.writer.sink = none)
    (normal : b.writer.level = .normal) (own : b.writer.config.fallback = some p)
    (opens : b.openAppend p = (b', some (file, size))) : Step b (b'.takeUp p .fallback file size)
  | ended {b : Bench} (shut : b.writer.sink = none) (uses : b.writer.level.usesFile = true) :
    Step b (b.settle .stderr)

def Fits (b : Bench) (line : Bytes) : Prop :=
  b.writer.isFull line.length = false ∨ b.writer.bytesWritten = 0 ∨ b.missed = true

/-- A line is taken. -/
inductive Takes (line : Bytes) : Bench → Bench → Prop where
  | took {b : Bench} {k : Sink} (some_line : line ≠ []) (own : b.writer.sink = some k)
    (fits : b.Fits line)
    (done : (k.put b.scene b.writer.refusals line).done = true) :
    Takes line b ((b.tried (k.put b.scene b.writer.refusals line)).hand line)
  | shown {b : Bench} (last : b.writer.level = .stderr) : Takes line b (b.shown line)

abbrev Goes : Bench → Bench → Prop :=
  Relation.ReflTransGen Step

def Serves (line : Bytes) (b b' : Bench) : Prop :=
  ∃ b₁ b₂, Goes b b₁ ∧ Takes line b₁ b₂ ∧ (b' = b₂ ∨ ∃ f, Flushes f ∧ b' = b₂.does f)

section

variable {b b' : Bench} {line : Bytes}

theorem openAppend_only {p : Path} {result : Option (NodeId × Nat)}
    (opens : b.openAppend p = (b', result)) :
    ∃ scene trouble, b' = { b with scene, trouble } := by
  unfold openAppend at opens
  split at opens <;> cases opens <;> exact ⟨_, _, rfl⟩

def KeepsOn (f : Scene → Writer → Scene × Writer) : Prop :=
  ∀ s w, ∃ sink refusals lastSync, (f s w).2 = { w with sink, refusals, lastSync }

theorem keepsOn_of_flushes {f : Scene → Writer → Scene × Writer} (flushes : Flushes f) :
    KeepsOn f := by
  intro s w
  cases here : w.sink with
  | none =>
    rw [flushes.shut here]
    exact ⟨_, _, _, rfl⟩
  | some k =>
    obtain ⟨lastSync, same⟩ := flushes.opened (s := s) here
    rw [same]
    exact ⟨_, _, _, rfl⟩

theorem keepsOn_closeSink : KeepsOn Writer.closeSink := by
  intro s w
  unfold Writer.closeSink
  split <;> exact ⟨_, _, _, rfl⟩

theorem KeepsOn.level {f : Scene → Writer → Scene × Writer} (keeps : KeepsOn f) (b : Bench) :
    (b.does f).writer.level = b.writer.level ∧ (b.does f).writer.config = b.writer.config := by
  obtain ⟨sink, refusals, lastSync, same⟩ := keeps b.scene b.writer
  rw [does, same]
  exact ⟨rfl, rfl⟩

theorem KeepsOn.bytesWritten {f : Scene → Writer → Scene × Writer} (keeps : KeepsOn f) (b : Bench) :
    (b.does f).writer.bytesWritten = b.writer.bytesWritten := by
  obtain ⟨sink, refusals, lastSync, same⟩ := keeps b.scene b.writer
  rw [does, same]

theorem Step.config (h : Step b b') : b'.writer.config = b.writer.config := by
  cases h with
  | flushed flushes => exact ((keepsOn_of_flushes flushes).level b).2
  | closed => exact (keepsOn_closeSink.level b).2
  | said | missed | refused | turned | ended => rfl
  | renewed shut own opens | failed shut opens | fell shut normal own opens =>
    obtain ⟨scene, trouble, rfl⟩ := openAppend_only opens
    rfl

theorem Step.handed (h : Step b b') : b'.handed = b.handed := by
  cases h with
  | flushed | closed | said | missed | refused | turned | ended => rfl
  | renewed shut own opens | failed shut opens | fell shut normal own opens =>
    obtain ⟨scene, trouble, rfl⟩ := openAppend_only opens
    rfl

theorem Step.missed_of (h : Step b b') (missed : b.missed = true) : b'.missed = true := by
  cases h with
  | flushed | closed | said | refused | turned | ended => exact missed
  | missed => rfl
  | renewed shut own opens | failed shut opens | fell shut normal own opens =>
    obtain ⟨scene, trouble, rfl⟩ := openAppend_only opens
    exact missed

theorem Step.level (h : Step b b') :
    b'.writer.level = b.writer.level ∧ b'.levels = b.levels ∨
      b'.writer.level ≠ .discard ∧ b'.writer.level.left < b.writer.level.left ∧
        b'.levels = b.levels ++ [b'.writer.level] := by
  cases h with
  | flushed flushes => exact .inl ⟨((keepsOn_of_flushes flushes).level b).1, rfl⟩
  | closed => exact .inl ⟨(keepsOn_closeSink.level b).1, rfl⟩
  | said | missed | refused | turned => exact .inl ⟨rfl, rfl⟩
  | renewed shut own opens | failed shut opens =>
    obtain ⟨scene, trouble, rfl⟩ := openAppend_only opens
    exact .inl ⟨rfl, rfl⟩
  | fell shut normal own opens =>
    obtain ⟨scene, trouble, rfl⟩ := openAppend_only opens
    refine .inr ⟨Level.noConfusion, ?_, rfl⟩
    rw [normal]
    exact Nat.one_lt_two
  | ended shut uses =>
    refine .inr ⟨Level.noConfusion, ?_, rfl⟩
    cases own : b.writer.level with
    | normal | fallback => exact Nat.succ_pos _
    | stderr | discard =>
      rw [own] at uses
      cases uses

theorem Goes.left_le (h : Goes b b') (works : b.writer.level ≠ .discard) :
    b'.writer.level.left ≤ b.writer.level.left ∧ b'.writer.level ≠ .discard := by
  induction h with
  | refl => exact ⟨Nat.le_refl _, works⟩
  | tail _ step ih =>
    rcases step.level with ⟨same, -⟩ | ⟨works', lower, -⟩
    · rwa [same]
    · exact ⟨Nat.le_trans (Nat.le_of_lt lower) ih.1, works'⟩

theorem Goes.missed_of (h : Goes b b') (missed : b.missed = true) : b'.missed = true := by
  induction h with
  | refl => exact missed
  | tail _ step ih => exact step.missed_of ih

theorem openFallback_goes (shut : b.writer.sink = none) (normal : b.writer.level = .normal) :
    Goes b b.openFallback ∧ b.openFallback.writer.level.left < b.writer.level.left := by
  have uses : b.writer.level.usesFile = true := by
    rw [normal]
    rfl
  unfold openFallback
  split
  · exact ⟨.tail (.single (.said b _)) (.ended shut uses), by rw [normal]; exact Nat.two_pos⟩
  · rename_i p own
    split
    · rename_i b₁ file size opens
      have falls := Step.fell shut normal own opens
      exact ⟨.tail (.single falls) (.said _ _), by rw [normal]; exact Nat.one_lt_two⟩
    · rename_i b₁ fails
      have first := Step.failed shut fails
      obtain ⟨scene, trouble, rfl⟩ := openAppend_only fails
      exact ⟨.tail (.tail (.single first) (.said _ _)) (.ended shut uses), by
        rw [normal]; exact Nat.two_pos⟩

theorem degrade_goes (uses : b.writer.level.usesFile = true) :
    Goes b b.degrade ∧ b.degrade.writer.level.left < b.writer.level.left := by
  have closes := Step.closed b
  have shut : (b.does Writer.closeSink).writer.sink = none := Writer.sink_closeSink _ _
  have level := (keepsOn_closeSink.level b).1
  unfold degrade fall
  rw [level]
  cases own : b.writer.level with
  | normal =>
    obtain ⟨falls, lower⟩ := openFallback_goes shut (level.trans own)
    rw [level.trans own] at lower
    exact ⟨.head closes falls, lower⟩
  | fallback =>
    have lasts : (b.does Writer.closeSink).writer.level.usesFile = true := by
      rw [level]
      exact uses
    exact ⟨.tail (.tail (.single closes) (.said _ _)) (.ended shut lasts), Nat.one_pos⟩
  | stderr | discard =>
    rw [own] at uses
    cases uses

theorem rotate_goes (uses : b.writer.level.usesFile = true) :
    Goes b b.rotate ∧
      (b.rotate.writer.sink ≠ none → b.rotate.writer.bytesWritten = 0 ∨ b.rotate.missed = true) := by
  have closes : Goes b ((b.does Writer.flush).does Writer.closeSink) :=
    .tail (.single (.flushed b flushes_flush)) (.closed _)
  have shut : ((b.does Writer.flush).does Writer.closeSink).writer.sink = none :=
    Writer.sink_closeSink _ _
  have level := (keepsOn_closeSink.level (b.does Writer.flush)).1.trans
    ((keepsOn_of_flushes flushes_flush).level b).1
  unfold rotate
  dsimp only
  generalize (b.does Writer.flush).does Writer.closeSink = b₁ at closes shut level
  split
  · exact ⟨closes, fun opened => absurd shut opened⟩
  · rename_i base own
    have turns := closes.tail (.turned shut base)
    unfold begin
    split
    · rename_i b₂ file size opens
      exact ⟨turns.tail (.renewed shut own opens), fun _ => .inl rfl⟩
    · rename_i b₂ fails
      have misses := (turns.tail (.failed shut fails)).tail (.missed _)
      have uses₂ : b₂.miss.writer.level.usesFile = true := by
        obtain ⟨scene, trouble, rfl⟩ := openAppend_only fails
        rwa [← level] at uses
      obtain ⟨falls, -⟩ := degrade_goes uses₂
      exact ⟨misses.trans falls, fun _ => .inr (falls.missed_of rfl)⟩

theorem makeSpace_goes (b : Bench) (line : Bytes) :
    Goes b (b.makeSpace line.length) ∧
      ((b.makeSpace line.length).writer.sink ≠ none → (b.makeSpace line.length).Fits line) := by
  unfold makeSpace
  split
  · rename_i full
    obtain ⟨goes, anew⟩ := rotate_goes (Bool.and_eq_true_iff.mp full).2
    exact ⟨goes, fun opened => .inr (anew opened)⟩
  · rename_i room
    exact ⟨.refl, fun _ => .inl (Bool.eq_false_iff.mpr room)⟩

/-- A line is taken while there are more tries than levels to fall back to. -/
theorem writeLine_serves {tries : Nat} (now : Nat) (some_line : line ≠ [])
    (works : b.writer.level ≠ .discard) (enough : b.writer.level.left < tries) :
    Serves line b (b.writeLine tries now line) := by
  induction tries generalizing b with
  | zero => cases enough
  | succ tries ih =>
    obtain ⟨makes, fits⟩ := b.makeSpace_goes line
    obtain ⟨left, works₁⟩ := makes.left_le works
    rw [writeLine]
    generalize b.makeSpace line.length = b₁ at makes fits left works₁
    dsimp only
    have again : ∀ {b₂ : Bench}, Goes b₁ b₂ → b₂.writer.level = b₁.writer.level →
        b₁.writer.level.usesFile = true → Serves line b (b₂.degrade.writeLine tries now line) := by
      intro b₂ goes same uses
      obtain ⟨falls, lower⟩ := degrade_goes (b := b₂) (by rwa [same])
      have on : Goes b₁ b₂.degrade := goes.trans falls
      rw [same] at lower
      obtain ⟨b₃, b₄, serves⟩ := ih (on.left_le works₁).2 (by omega)
      exact ⟨b₃, b₄, (makes.trans on).trans serves.1, serves.2⟩
    split
    · rename_i out
      exact absurd out works₁
    · rename_i last
      exact ⟨b₁, _, makes, .shown last, .inl rfl⟩
    · rename_i not_discard not_stderr
      have uses : b₁.writer.level.usesFile = true := Level.usesFile_of_ne not_stderr not_discard
      split
      · exact again .refl rfl uses
      · rename_i k own
        cases done : (k.put b₁.scene b₁.writer.refusals line).done with
        | true =>
          have takes := Takes.took some_line own (fits (by rw [own]; exact Option.some_ne_none k)) done
          rw [if_pos rfl]
          refine ⟨b₁, _, makes, takes, ?_⟩
          unfold due
          split
          · exact .inr ⟨_, flushes_sync now, rfl⟩
          · exact .inl rfl
        | false => exact again (.single (.refused some_line own done)) rfl uses

theorem left_lt_three (level : Level) : level.left < 3 := by
  cases level <;> decide

theorem obey_serves (works : b.writer.level ≠ .discard) (now : Nat) (e : Entry) :
    Serves (Text.utf8 e.line) b (b.obey (.entry now e)) :=
  writeLine_serves now (whole_line e).ne_nil works (left_lt_three _)

/-- More tries change nothing. -/
theorem writeLine_of_enough {tries more : Nat} (now : Nat) (line : Bytes)
    (works : b.writer.level ≠ .discard) (enough : b.writer.level.left < tries)
    (at_least : tries ≤ more) : b.writeLine more now line = b.writeLine tries now line := by
  induction tries generalizing b more with
  | zero => cases enough
  | succ tries ih =>
    obtain ⟨more, rfl⟩ := Nat.exists_eq_add_one_of_ne_zero (Nat.ne_zero_of_lt at_least)
    obtain ⟨makes, -⟩ := b.makeSpace_goes line
    obtain ⟨left, works₁⟩ := makes.left_le works
    rw [writeLine, writeLine]
    generalize b.makeSpace line.length = b₁ at left works₁
    dsimp only
    have again : ∀ {b₂ : Bench}, b₂.writer.level = b₁.writer.level →
        b₁.writer.level.usesFile = true →
        b₂.degrade.writeLine more now line = b₂.degrade.writeLine tries now line := by
      intro b₂ same uses
      obtain ⟨falls, lower⟩ := degrade_goes (b := b₂) (by rwa [same])
      rw [same] at lower
      exact ih (falls.left_le (by rwa [same])).2 (by omega) (Nat.le_of_succ_le_succ at_least)
    cases own : b₁.writer.level with
    | discard | stderr => rfl
    | normal | fallback =>
      have uses : b₁.writer.level.usesFile = true := by
        rw [own]
        rfl
      cases b₁.writer.sink with
      | none => exact again rfl uses
      | some k =>
        dsimp only
        split
        · rfl
        · exact again rfl uses

theorem openFallback_level (b : Bench) (level : Level) :
    openFallback { b with writer.level := level } = b.openFallback := by
  obtain ⟨s, w, ⟨openings, movings⟩, outlet, levels, handed, surplus, missed⟩ := b
  unfold openFallback openAppend
  dsimp only
  cases w.config.fallback with
  | none => rfl
  | some p =>
    dsimp only
    generalize Journal.openAppend s p = x
    obtain ⟨s', _ | ⟨file, size⟩⟩ := x
    all_goals rcases openings with _ | ⟨_ | tree, rest⟩ <;> rfl

theorem openFallback_stocked (b : Bench) :
    b.openFallback.writer.level = .stderr ∨ b.openFallback.writer.sink ≠ none := by
  unfold openFallback
  split
  · exact .inl rfl
  · split
    · exact .inr (Option.some_ne_none _)
    · exact .inl rfl

theorem start_cases (s : Scene) (c : Config) (now : Nat) (refusals : List Bool)
    (trouble : Trouble) :
    (∃ b b' : Bench, ∃ file size, b.writer.config = c ∧ b.writer.sink = none ∧
      b.openAppend c.path = (b', some (file, size)) ∧
      start s c now refusals trouble = b'.takeUp c.path .normal file size) ∨
    ∃ b : Bench, b.writer.config = c ∧ b.writer.sink = none ∧ b.writer.level = .normal ∧
      Goes b b.openFallback ∧ start s c now refusals trouble = b.openFallback := by
  unfold start
  dsimp only
  split
  · rename_i b' file size opens
    exact .inl ⟨_, b', file, size, rfl, rfl, opens, rfl⟩
  · rename_i b' fails
    obtain ⟨scene, trouble, rfl⟩ := openAppend_only fails
    rw [← openFallback_level _ .normal]
    exact .inr ⟨_, rfl, rfl, rfl, (openFallback_goes rfl rfl).1, rfl⟩

end

end MountProbe.Journal.Bench
