import MountProbe.Proofs.Settings.Loaded
import MountProbe.Proofs.Watch.Reload

/-! Settings which have been loaded never fail later, and a reload never rejects what it has
read. This holds whatever compiles the patterns. -/
namespace MountProbe

open Settings (Environment Found)

/-- The settings that a file and the environment give, which are still to be checked. -/
def Settings.inForce (asked : Option Path) (find : Path → Found) (env : Environment) :
    Except Failure Settings := do
  let p := asked.getD PathSettings.usual.configFile
  let s ← base asked.isSome p (find p)
  let s ← overridden env { s with paths := { s.paths with configFile := p } }
  return normalized { s with collector := withoutUsualExcludes s.collector }

section

variable [Patterns]

namespace Settings

theorem load_eq (asked : Option Path) (find : Path → Found) (env : Environment) :
    load asked find env = inForce asked find env >>= fun s => check s >>= fun _ => .ok s := by
  simp only [load, inForce, bind_assoc, pure_bind]
  rfl

/-- What is known of settings that have been loaded, and of others that have not. -/
structure LoadsValid (asked : Option Path) (find : Path → Found) (env : Environment) : Prop where
  loads : ∀ s, load asked find env = .ok s ↔ inForce asked find env = .ok s ∧ s.Valid
  refuses : ∀ s, inForce asked find env = .ok s → ¬ s.Valid →
    ∃ text, load asked find env = .error (.invalidConfig text)
  builds : ∀ s, load asked find env = .ok s → ∀ logged,
    ∃ c, Collector.ofSettings s.collector logged = .ok c ∧ s.collector.InUse c
  begins : ∀ s, load asked find env = .ok s → ∀ world epochMs logging options,
    ∃ after w, Watch.init world epochMs { s with logging } options = (after, .ok w)

theorem loadsValid (asked : Option Path) (find : Path → Found) (env : Environment) :
    LoadsValid asked find env := by
  have loads : ∀ s, load asked find env = .ok s ↔ inForce asked find env = .ok s ∧ s.Valid := by
    intro s
    rw [load_eq, bind_eq_ok]
    constructor
    · rintro ⟨t, found, checked⟩
      obtain ⟨_, passed, same⟩ := bind_eq_ok.mp checked
      cases same
      exact ⟨found, (check_checks s).ok_iff.mp passed⟩
    · rintro ⟨found, valid⟩
      refine ⟨s, found, bind_eq_ok.mpr ⟨(), (check_checks s).ok_iff.mpr valid, rfl⟩⟩
  have builds : ∀ s, load asked find env = .ok s → ∀ logged,
      ∃ c, Collector.ofSettings s.collector logged = .ok c := by
    intro s loaded logged
    exact (Collector.built_iff logged).mpr ((loads s).mp loaded).2.patterns
  refine ⟨loads, ?_, ?_, ?_⟩
  · intro s found invalid
    rcases check_checks s with ⟨valid, -⟩ | ⟨-, text, refused⟩
    · exact absurd valid invalid
    · refine ⟨text, ?_⟩
      rw [load_eq, found]
      exact congrArg (· >>= fun _ => Except.ok s) refused
  · intro s loaded logged
    obtain ⟨c, built⟩ := builds s loaded logged
    exact ⟨c, built, Collector.inUse_of_built built⟩
  · intro s loaded world epochMs logging options
    have usable : ∀ logged, ∃ c,
        Collector.ofSettings ({ s with logging } : Settings).collector logged = .ok c :=
      builds s loaded
    exact Watch.init_ok usable world epochMs options

end Settings

namespace Watch

/-- How a reload ends: it cannot read settings, or finds the same, or puts others in use. -/
inductive Rereads (env : Environment) (w : Watch) : Watch → Prop where
  | failed {f : Failure} : w.reads env = .error f →
    Rereads env w (w.askedAgain.fail "config reload failed: " f)
  | unchanged {s : Settings} : w.reads env = .ok s → fingerprint w.settings = fingerprint s →
    Rereads env w w.skipped
  | adopted {s : Settings} {c : Collector} (text : String) : w.reads env = .ok s →
    fingerprint w.settings ≠ fingerprint s → s.Valid →
    Collector.ofSettings s.collector w.logger.isSome = .ok c →
    Rereads env w ((w.complain text).adopted s c)

theorem reload_rereads (env : Environment) (w : Watch) : Rereads env w (w.reload env) := by
  have ended := reload_cases env w
  generalize w.reload env = v at ended ⊢
  have sound := Settings.loadsValid (some w.settings.paths.configFile) w.world.tree.lookup env
  cases ended with
  | failed read => exact .failed read
  | unchanged read same => exact .unchanged read same
  | rejected text read new refused =>
    obtain ⟨c, built, -⟩ := sound.builds _ read w.logger.isSome
    rw [refused] at built
    cases built
  | adopted text read new built => exact .adopted text read new ((sound.loads _).mp read).2 built

end Watch

/-- Just valid settings are loaded; a collector is built of them and a watch begins with them, and
when they are read again they are never rejected. -/
theorem Settings.loaded_settings_serve (asked : Option Path) (find : Path → Found)
    (env : Environment) :
    LoadsValid asked find env ∧ ∀ w : Watch, w.Rereads env (w.reload env) :=
  ⟨loadsValid asked find env, Watch.reload_rereads env⟩

end

theorem Settings.usual_settings_serve :
    load none (fun _ => none) (fun _ => none) = .ok .usual ∧ Settings.usual.Valid ∧
      ∃ c, Collector.ofSettings Settings.usual.collector true = .ok c := by
  obtain ⟨sound, -⟩ := loaded_settings_serve none (fun _ => none) fun _ => none
  obtain ⟨c, built, -⟩ := sound.builds _ load_usual true
  exact ⟨load_usual, ((sound.loads _).mp load_usual).2, c, built⟩

end MountProbe
