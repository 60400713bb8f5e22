import MountProbe.Proofs.Journal.Touches
import MountProbe.Proofs.Watch.Reload

namespace MountProbe.Watch

open FileTree (Kept)
open Journal (Config Hold Logger Sink Touches Leaves)

/-- The files, and the one that the log has open. -/
def hold (w : Watch) : Hold :=
  ⟨w.world.tree, (w.logger.bind fun l => l.writer.sink).map Sink.file⟩

/-- From the one watch to the other the log has touched files, and nobody else has. -/
inductive Jots (w v : Watch) : Prop where
  | still : w.logger = none → v.logger = none → v.world.tree = w.world.tree → Jots w v
  | touches {l : Logger} : w.logger = some l →
    (∀ m, v.logger = some m → m.writer.config = l.writer.config) →
    Touches l.writer.config w.hold v.hold → Jots w v

section

variable {u v w : Watch} {host : Host} {env : Settings.Environment}

theorem hold_congr (tree : v.world.tree = w.world.tree) (logger : v.logger = w.logger) :
    v.hold = w.hold := by
  rw [hold, hold, tree, logger]

theorem Jots.refl (w : Watch) : Jots w w := by
  cases logger : w.logger with
  | none => exact .still logger logger rfl
  | some l =>
    refine .touches logger (fun m same => ?_) .refl
    cases logger.symm.trans same
    rfl

theorem Jots.trans (first : Jots u v) (last : Jots v w) : Jots u w := by
  cases first with
  | still before after same =>
    cases last with
    | still _ after' same' => exact .still before after' (same'.trans same)
    | touches other _ _ =>
      rw [after] at other
      cases other
  | @touches l before config touched =>
    cases last with
    | still other after same =>
      refine .touches before (fun m same' => ?_) ?_
      · rw [after] at same'
        cases same'
      · rwa [hold_congr same (after.trans other.symm)]
    | @touches m between config' touched' =>
      have same := config m between
      rw [same] at config' touched'
      exact .touches before config' (touched.trans touched')

theorem Jots.before (jots : Jots w v) (tree : u.world.tree = w.world.tree)
    (logger : u.logger = w.logger) : Jots u v := by
  cases jots with
  | still before after same => exact .still (logger.trans before) after (same.trans tree.symm)
  | touches before config touched =>
    exact .touches (logger.trans before) config (hold_congr tree logger ▸ touched)

theorem Jots.after (jots : Jots w v) (tree : u.world.tree = v.world.tree)
    (logger : u.logger = v.logger) : Jots w u := by
  cases jots with
  | still before after same => exact .still before (logger.trans after) (tree.trans same)
  | touches before config touched =>
    refine .touches before (logger ▸ config) ?_
    rwa [hold_congr tree logger]

theorem jots_of_same (tree : v.world.tree = w.world.tree) (logger : v.logger = w.logger) :
    Jots w v :=
  (Jots.refl w).after tree logger

theorem jots_tell (w : Watch) : Jots w w.tell := by
  cases logger : w.logger with
  | none =>
    rw [tell_of_none logger]
    exact .still logger logger rfl
  | some l =>
    have works := l.recordAll_works w.world.scene w.clockMs (w.world.events.drop w.told)
    rw [tell, logger]
    refine .touches logger (fun m same => ?_) ?_
    · cases same
      exact works.config
    · have touched := works.touches
      rw [hold, logger]
      exact touched

theorem jots_log (w : Watch) (e : Journal.Event) : Jots w (w.log e) := by
  unfold log
  exact (jots_tell _).before rfl rfl

theorem jots_fail (w : Watch) (before : String) (f : Failure) : Jots w (w.fail before f) :=
  (jots_log (w.complain _) _).before rfl rfl

theorem jots_reload (env : Settings.Environment) (w : Watch) : Jots w (w.reload env) := by
  generalize reloaded : w.reload env = v
  cases reloaded ▸ reload_cases env w with
  | failed read => exact (jots_fail w.askedAgain _ _).before rfl rfl
  | unchanged read same => exact jots_of_same rfl rfl
  | rejected text read new refused =>
    exact (jots_fail (w.complain text) _ _).before rfl rfl
  | @adopted s c text read new built =>
    have logs : ∀ e, Jots w (Watch.log { w.complain text with collector := c } e) :=
      fun e => (jots_log _ e).before rfl rfl
    exact (logs _).after rfl rfl

theorem jots_finish (w : Watch) (result : Except Failure Unit) : Jots w (w.finish result) := by
  have logs := jots_log w (.collectorStopped "clean shutdown" (w.now / 1000000))
  unfold finish
  dsimp only
  generalize w.log (.collectorStopped "clean shutdown" (w.now / 1000000)) = v at logs
  cases logger : v.logger with
  | none => exact logs.after rfl rfl
  | some l =>
    have stops := l.stop_touches v.world.scene v.clockMs
    refine logs.trans (.touches logger (fun m same => nomatch same) ?_)
    rw [hold, logger]
    exact stops

end

end MountProbe.Watch
