import MountProbe.Proofs.Watch.Reload

namespace MountProbe.Watch

/-- What comes of a request to reload, once the watch answers it. -/
def Answers (env : Settings.Environment) (found : Settings.Found) (comes : Watch → Watch → Prop)
    (w : Watch) : Prop :=
  ∀ host, w.answers? = some .reload → w.finds found → comes w (w.step host env)

section

variable {w v : Watch} {es : List Event} {env : Settings.Environment} {found : Settings.Found}
  {p : Path}

theorem isOver_of_reload (asked : w.answers? = some .reload) : w.isOver = false := by
  rw [isOver, (answers?_eq_reload.mp asked).1]

/-- What reloads that read the same each time leave of a watch. -/
structure Held (result : Except Failure Settings) (w v : Watch) : Prop where
  settings : v.settings = w.settings ∨
    (result = .ok v.settings ∧ fingerprint w.settings ≠ fingerprint v.settings)
  collector : v.collector = w.collector
  logger : v.isOver = false → v.logger.isSome = w.logger.isSome
  current : v.Current

variable {result : Except Failure Settings}

theorem Held.of_kept {u : Watch} (held : Held result w v) (settings : u.settings = v.settings)
    (collector : u.collector = v.collector)
    (logger : u.isOver = false → u.logger.isSome = w.logger.isSome) (current : u.Current) :
    Held result w u := by
  refine ⟨?_, collector.trans held.collector, logger, current⟩
  rw [settings]
  exact held.settings

theorem Held.reload (held : Held result w v)
    (built : ∀ s, result = .ok s →
      Collector.ofSettings s.collector w.logger.isSome = .ok w.collector)
    (host : Host) (asked : v.answers? = some .reload) (read : v.reads env = result) :
    Held result w (v.step host env) := by
  have logger := held.logger (isOver_of_reload asked)
  have current := step_current host env held.current
  have still : (v.step host env).logger.isSome = v.logger.isSome := by
    rw [step_of_reload asked]
    exact reload_logger env _
  have kept := fun _ : (v.step host env).isOver = false => still.trans logger
  have reloaded : Reloaded env v (v.step host env) := step_reloaded host asked held.current
  cases reloaded with
  | failed _ fails => exact held.of_kept fails.settings fails.collector kept current
  | unchanged _ _ idles => exact held.of_kept idles.settings idles.collector kept current
  | rejected _ _ _ fails => exact held.of_kept fails.settings fails.collector kept current
  | @adopted s c other new also adopts =>
    -- These settings built the collector in use, so building it again changes nothing.
    have reads := read.symm.trans other
    rw [logger, built s reads] at also
    cases also
    refine ⟨.inr ?_, adopts.collector, kept, current⟩
    rw [adopts.settings]
    rcases held.settings with same | ⟨taken, -⟩
    · rw [same] at new
      exact ⟨reads, new⟩
    · rw [reads] at taken
      rw [← Except.ok.inj taken] at new
      exact absurd rfl new

theorem Held.other (held : Held result w v) (host : Host) (env : Settings.Environment)
    (other : v.answers? ≠ some .reload) : Held result w (v.step host env) := by
  have kept := step_keeps host env other
  refine held.of_kept kept.settings kept.collector ?_ (step_current host env held.current)
  intro going
  have before : v.isOver = false := by
    cases finished : v.isOver with
    | false => rfl
    | true =>
      rw [(step_turn host env v).remains finished] at going
      cases going
  exact (kept.logger going).trans (held.logger before)

theorem Held.move {u : Watch} {e : Event} (held : Held result w u)
    (built : ∀ s, result = .ok s →
      Collector.ofSettings s.collector w.logger.isSome = .ok w.collector)
    (move : Move env u e v) (read : e = .stepped (some .reload) → u.reads env = result) :
    Held result w v := by
  cases move with
  | step host _ =>
    by_cases asked : u.answers? = some .reload
    · exact held.reload built host asked (read (congrArg Event.stepped asked))
    · exact held.other host env asked
  | raise _ r => exact ⟨held.settings, held.collector, held.logger, held.current⟩
  | change _ tree output freed =>
    exact ⟨held.settings, held.collector, held.logger, held.current⟩

theorem Held.reads (held : Held (Settings.load (some p) (fun _ => found) env) w v)
    (named : w.settings.paths.configFile = p) (finds : v.finds found) :
    v.reads env = Settings.load (some p) (fun _ => found) env := by
  have place : v.settings.paths.configFile = p := by
    rcases held.settings with same | ⟨loaded, -⟩
    · rw [same, named]
    · exact Settings.configFile_of_load loaded
  rw [Watch.finds, place] at finds
  rw [Watch.reads, place]
  exact Settings.load_of_found finds

theorem Steady.held (current : w.Current) (named : w.settings.paths.configFile = p)
    (built : ∀ s, Settings.load (some p) (fun _ => found) env = .ok s →
      Collector.ofSettings s.collector w.logger.isSome = .ok w.collector)
    (run : Steady env found w es v) :
    Held (Settings.load (some p) (fun _ => found) env) w v := by
  induction run with
  | refl => exact ⟨.inl rfl, rfl, fun _ => rfl, current⟩
  | move _ move finds ih =>
    exact ih.move built move fun asked => ih.reads named (finds asked)

end

end MountProbe.Watch
