import MountProbe.Proofs.Collector.Between
import MountProbe.Proofs.Watch.Steps

namespace MountProbe

namespace World

theorem scrape_between {w : World} (h : w.timetable.Between) (host : Host) (c : Collector) :
    (w.scrape host c).1.timetable.Between := by
  unfold scrape
  split
  · rename_i world f told
    have same := congrArg (·.1.timetable) told
    exact same ▸ h
  · rename_i world mounts told
    have same : w.timetable = world.timetable := congrArg (·.1.timetable) told
    exact Timetable.Between.scrape (same ▸ h) host.conduct c mounts

theorem scrape_scraped {w world : World} (h : w.timetable.Between) {host : Host} {c : Collector}
    {records : List Stat.Record} (scraped : w.scrape host c = (world, .ok records)) :
    ∃ mounts es, (host.table w.tree).mounts = .ok mounts ∧
      Traffic.Scraped c mounts w.timetable.traffic.cycles.length es world.timetable.traffic
        records := by
  unfold scrape at scraped
  split at scraped
  · cases scraped
  · rename_i w' mounts told
    have same : w.timetable = w'.timetable := congrArg (·.1.timetable) told
    have read : (host.table w.tree).mounts = .ok mounts := congrArg (·.2) told
    cases scraped
    rw [same] at h ⊢
    obtain ⟨es, right⟩ := h.scraped host.conduct c mounts
    exact ⟨mounts, es, read, right⟩

end World

namespace Watch

variable {w v : Watch} {host : Host}

def Between (w : Watch) : Prop :=
  w.world.timetable.Between

theorem Between.of_same (h : w.Between) (same : v.world.timetable = w.world.timetable) :
    v.Between := by
  rw [Between, same]
  exact h

@[simp] theorem complain_between (text : String) : (w.complain text).Between ↔ w.Between :=
  Iff.rfl

@[simp] theorem tell_between : w.tell.Between ↔ w.Between := by
  unfold tell
  split <;> rfl

theorem Between.log (h : w.Between) (e : Journal.Event) : (w.log e).Between := by
  rw [Watch.log, tell_between]
  exact Timetable.Between.log h _ e

theorem Between.fail (h : w.Between) (before : String) (f : Failure) :
    (w.fail before f).Between :=
  Between.log ((complain_between _).mpr h) _

theorem Between.reload (h : w.Between) (env : Settings.Environment) : (w.reload env).Between := by
  unfold Watch.reload
  extract_lets asked
  have begun : asked.Between := h
  split
  · exact begun.fail _ _
  · extract_lets after moved told
    have between : told.Between := by
      unfold told
      split <;> exact begun
    split
    · exact begun
    · split
      · exact between.fail _ _
      · rename_i collector _
        have logged := Between.log (w := { told with collector }) between
        exact (logged _).of_same rfl

theorem Between.publish (h : w.Between) (text : String) : (w.publish text).Between := by
  unfold Watch.publish
  split
  · have failed := fun tree => Between.fail
      (w := { w with world := { w.world with scene := { w.world.scene with tree } } }) h
    dsimp only
    split
    · exact h
    · exact (failed _ "" _).of_same rfl
  · dsimp only
    split <;> exact h

theorem Between.scrapeOnce (h : w.Between) : (w.scrapeOnce host).Between := by
  have after := World.scrape_between h host w.collector
  unfold Watch.scrapeOnce
  split
  · rename_i world f scraped
    rw [scraped] at after
    have between : { w with world }.Between := after
    exact between.fail _ f
  · rename_i world records scraped
    rw [scraped] at after
    have between : { w with world }.Between := after
    exact (tell_between.mpr between).publish _

theorem Between.finish (h : w.Between) (result : Except Failure Unit) :
    (w.finish result).Between := by
  have logged := Between.log h (.collectorStopped "clean shutdown" (w.now / 1000000))
  unfold Watch.finish
  dsimp only
  split <;> exact logged

theorem Between.step (h : w.Between) (host : Host) (env : Settings.Environment) :
    (w.step host env).Between := by
  generalize stepped : w.step host env = v
  cases stepped ▸ step_does host env w with
  | heeds | goesOn | passes | takes | stops | lies | wakes | stays => exact h
  | reloads _ _ =>
    have reloaded := Between.reload (w := { w with signals := w.signals.withoutReload }) h env
    exact reloaded.of_same rfl
  | scrapes _ => exact h.scrapeOnce
  | rests _ _ _ => exact tell_between.mpr (Timetable.Between.sleepUntil h _)
  | finishes _ => exact h.finish _

theorem Between.move {env : Settings.Environment} {e : Event} (h : w.Between)
    (move : Move env w e v) : v.Between := by
  cases move with
  | step host _ => exact h.step host env
  | raise _ r => exact h
  | change _ tree output freed => exact Timetable.Between.letGo h freed

theorem Between.run {es : List Event} (h : w.Between) (run : Run w es v) : v.Between := by
  induction run with
  | refl => exact h
  | move _ move ih => exact ih.move move

theorem timetable_of_init {world world' : World} {epochMs : Nat} {settings : Settings}
    {options : Options} (began : init world epochMs settings options = (world', .ok w)) :
    w.world.timetable = world.timetable := by
  unfold init at began
  split at began
  rename_i begun logger opened
  have kept : begun.timetable = world.timetable := by
    split at opened <;> cases opened <;> rfl
  split at began
  · cases began
  · cases began
    exact kept

theorem run_accounted {tree : FileTree} {world' : World} {epochMs : Nat} {settings : Settings}
    {options : Options} {es : List Event}
    (began : init (.ofTree tree) epochMs settings options = (world', .ok w))
    (run : Run w.begin es v) :
    Traffic.Accounted v.world.timetable.traffic ∧
      ∀ host world records, v.world.scrape host v.collector = (world, .ok records) →
        ∃ mounts es, (host.table v.world.tree).mounts = .ok mounts ∧
          Traffic.Scraped v.collector mounts v.world.timetable.traffic.cycles.length es
            world.timetable.traffic records := by
  have fresh : w.Between := by
    rw [Between, timetable_of_init began]
    exact Timetable.between_empty
  have between := (fresh.log _).run run
  exact ⟨between.accounted, fun _ _ _ scraped => World.scrape_scraped between scraped⟩

end Watch

end MountProbe
