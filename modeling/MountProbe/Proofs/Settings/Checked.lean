import MountProbe.Collector.Basic
import MountProbe.Proofs.Failing
import MountProbe.Settings.Load

namespace MountProbe

namespace Settings

/-- A check that passes what is fair, and finds nothing else to fail with than the settings. -/
def Checks (x : Except Failure Unit) (fair : Prop) : Prop :=
  (fair ∧ x = .ok ()) ∨ (¬ fair ∧ ∃ text, x = .error (.invalidConfig text))

theorem Checks.ok_iff {x : Except Failure Unit} {fair : Prop} (checks : Checks x fair) :
    x = .ok () ↔ fair := by
  rcases checks with ⟨holds, passed⟩ | ⟨fails, text, refused⟩
  · exact ⟨fun _ => holds, fun _ => passed⟩
  · rw [refused]
    exact ⟨nofun, fun holds => absurd holds fails⟩

theorem Checks.congr {x : Except Failure Unit} {fair fair' : Prop} (checks : Checks x fair)
    (same : fair ↔ fair') : Checks x fair' :=
  propext same ▸ checks

theorem Checks.and {x y : Except Failure Unit} {fair fair' : Prop} (first : Checks x fair)
    (second : Checks y fair') : Checks (x >>= fun _ => y) (fair ∧ fair') := by
  rcases first with ⟨holds, rfl⟩ | ⟨fails, text, rfl⟩
  · rcases second with ⟨holds', rfl⟩ | ⟨fails', text, rfl⟩
    · exact .inl ⟨⟨holds, holds'⟩, rfl⟩
    · exact .inr ⟨fun both => fails' both.2, text, rfl⟩
  · exact .inr ⟨fun both => fails both.1, text, rfl⟩

theorem Checks.unless {x : Except Failure Unit} {fair : Prop} (later : Checks x fair)
    (refused : Prop) [Decidable refused] (text : String) :
    Checks (if refused then
        (Except.error (.invalidConfig text) : Except Failure Unit) >>= fun _ => x else x)
      (¬ refused ∧ fair) := by
  by_cases holds : refused
  · rw [if_pos holds]
    exact .inr ⟨fun both => both.1 holds, text, rfl⟩
  · rw [if_neg holds]
    simpa [Checks, holds] using later

theorem checks_nothing : Checks (pure ()) True :=
  .inl ⟨trivial, rfl⟩

end Settings

section

variable [Patterns]

/-- An empty pattern is none, so that there is nothing to compile. -/
def Patterns.Compiles (source : String) : Prop :=
  source = "" ∨ ∃ finds, compile source = .ok finds

structure CollectorSettings.Compile (c : CollectorSettings) : Prop where
  mountPointsExclude : Patterns.Compiles c.mountPointsExclude
  mountPointsInclude : Patterns.Compiles c.mountPointsInclude
  fsTypesExclude : Patterns.Compiles c.fsTypesExclude
  fsTypesInclude : Patterns.Compiles c.fsTypesInclude

/-- Settings that can be used. -/
structure Settings.Valid (s : Settings) : Prop where
  timeout : 0 < s.collector.mountTimeoutMs
  interval : 0 < s.watch.scrapeIntervalMs
  logSize : 4096 ≤ s.logging.maxSizeBytes
  mountPoints : s.collector.mountPointsExclude = "" ∨ s.collector.mountPointsInclude = ""
  fsTypes : s.collector.fsTypesExclude = "" ∨ s.collector.fsTypesInclude = ""
  patterns : s.collector.Compile

theorem Patterns.compiles_of_empty {source : String} (empty : source.isEmpty = true) :
    Compiles source :=
  .inl (String.isEmpty_iff.mp empty)

theorem Patterns.compiles_iff {source : String} (some : ¬ source.isEmpty = true) :
    Compiles source ↔ ∃ finds, compile source = .ok finds :=
  or_iff_right (mt String.isEmpty_iff.mpr some)

namespace NameFilter

theorem readPattern_ok_iff {source : String} :
    (∃ e, readPattern source = .ok e) ↔ Patterns.Compiles source := by
  rw [readPattern]
  by_cases empty : source.isEmpty = true
  · rw [if_pos empty]
    exact ⟨fun _ => Patterns.compiles_of_empty empty, fun _ => ⟨none, rfl⟩⟩
  · rw [if_neg empty, Patterns.compiles_iff empty]
    cases Patterns.compile source <;> simp

theorem read_ok_iff {exclude includeOnly : String} :
    (∃ f, read exclude includeOnly = .ok f) ↔
      Patterns.Compiles exclude ∧ Patterns.Compiles includeOnly := by
  rw [← readPattern_ok_iff, ← readPattern_ok_iff]
  constructor
  · rintro ⟨f, built⟩
    obtain ⟨e, first, later⟩ := bind_eq_ok.mp built
    obtain ⟨i, last, -⟩ := bind_eq_ok.mp later
    exact ⟨⟨e, first⟩, i, last⟩
  · rintro ⟨⟨e, first⟩, i, last⟩
    exact ⟨⟨e, i⟩, bind_eq_ok.mpr ⟨e, first, bind_eq_ok.mpr ⟨i, last, rfl⟩⟩⟩

end NameFilter

theorem Collector.built_iff {c : CollectorSettings} (logged : Bool) :
    (∃ collector, Collector.ofSettings c logged = .ok collector) ↔ c.Compile := by
  have filters : (∃ f, MountFilters.ofSettings c = .ok f) ↔ c.Compile := by
    constructor
    · rintro ⟨f, built⟩
      obtain ⟨m, mountPoints, later⟩ := bind_eq_ok.mp built
      obtain ⟨t, fsTypes, -⟩ := bind_eq_ok.mp later
      obtain ⟨first, second⟩ := NameFilter.read_ok_iff.mp ⟨m, mountPoints⟩
      obtain ⟨third, fourth⟩ := NameFilter.read_ok_iff.mp ⟨t, fsTypes⟩
      exact ⟨first, second, third, fourth⟩
    · rintro ⟨first, second, third, fourth⟩
      obtain ⟨m, mountPoints⟩ := NameFilter.read_ok_iff.mpr ⟨first, second⟩
      obtain ⟨t, fsTypes⟩ := NameFilter.read_ok_iff.mpr ⟨third, fourth⟩
      exact ⟨⟨m, t⟩, bind_eq_ok.mpr ⟨m, mountPoints, bind_eq_ok.mpr ⟨t, fsTypes, rfl⟩⟩⟩
  rw [← filters]
  constructor
  · rintro ⟨collector, built⟩
    obtain ⟨f, read, -⟩ := bind_eq_ok.mp built
    exact ⟨f, read⟩
  · rintro ⟨f, read⟩
    exact ⟨_, bind_eq_ok.mpr ⟨f, read, rfl⟩⟩

namespace Settings

theorem checkPattern_checks (target kind source : String) :
    Checks (checkPattern target kind source) (Patterns.Compiles source) := by
  rw [checkPattern]
  by_cases empty : source.isEmpty = true
  · rw [if_pos empty]
    exact .inl ⟨Patterns.compiles_of_empty empty, rfl⟩
  · rw [if_neg empty]
    cases compiled : Patterns.compile source with
    | error message =>
      refine .inr ⟨?_, _, rfl⟩
      rw [Patterns.compiles_iff empty]
      rintro ⟨finds, other⟩
      simp [compiled] at other
    | ok finds => exact .inl ⟨(Patterns.compiles_iff empty).mpr ⟨finds, compiled⟩, rfl⟩

theorem checkPatterns_checks (target exclude includeOnly : String) :
    Checks (checkPatterns target exclude includeOnly)
      ((exclude = "" ∨ includeOnly = "") ∧
        Patterns.Compiles exclude ∧ Patterns.Compiles includeOnly) := by
  have both := (checkPattern_checks target "exclude" exclude).and
    (checkPattern_checks target "include" includeOnly)
  refine (both.unless (¬ exclude.isEmpty ∧ ¬ includeOnly.isEmpty) _).congr ?_
  rw [String.isEmpty_iff, String.isEmpty_iff, ← not_or, not_not]

theorem check_checks (s : Settings) : Checks (check s) s.Valid := by
  have size := checks_nothing.unless (s.logging.maxSizeBytes < leastLogSize)
    ("logging.max_size_bytes must be >= 4096, got " ++ toString s.logging.maxSizeBytes)
  have patterns := (checkPatterns_checks "mount_points" s.collector.mountPointsExclude
    s.collector.mountPointsInclude).and ((checkPatterns_checks "fs_types"
      s.collector.fsTypesExclude s.collector.fsTypesInclude).and size)
  have interval := patterns.unless (s.watch.scrapeIntervalMs = 0)
    "daemon.scrape_interval_ms must be > 0"
  have all := interval.unless (s.collector.mountTimeoutMs = 0)
    "collector.mount_timeout_ms must be > 0"
  refine all.congr ⟨?_, fun valid => ?_⟩
  · rintro ⟨timeout, interval, ⟨mountPoints, first, second⟩, ⟨fsTypes, third, fourth⟩, size, -⟩
    exact ⟨Nat.pos_of_ne_zero timeout, Nat.pos_of_ne_zero interval, Nat.le_of_not_lt size,
      mountPoints, fsTypes, ⟨first, second, third, fourth⟩⟩
  · obtain ⟨timeout, interval, size, mountPoints, fsTypes, first, second, third, fourth⟩ := valid
    exact ⟨Nat.ne_of_gt timeout, Nat.ne_of_gt interval, ⟨mountPoints, first, second⟩,
      ⟨fsTypes, third, fourth⟩, Nat.not_lt_of_le size, trivial⟩

end Settings

end

end MountProbe
