import MountProbe.Proofs.Settings.Fingerprint
import MountProbe.Proofs.Watch.Reload

/-! How a watch follows its settings' file. What the file says comes into use when its fingerprint
is new, and fingerprints tell settings apart. Settings whose own path is no text have no
fingerprint, so that a watch never finds them changed. -/
namespace MountProbe.Watch

section

variable {w : Watch} {env : Settings.Environment} {s t : Settings}

theorem fingerprint_of_no_text (no_text : s.paths.configFile.isText = false) :
    fingerprint s = "" := by
  rw [fingerprint, Settings.fingerprint_of_no_text no_text]
  rfl

theorem fingerprint_of_ok {h : String} (given : s.fingerprint = .ok h) : fingerprint s = h := by
  rw [fingerprint, given]
  rfl

theorem fingerprint_injective (apart : s.HashedApart t) (text : t.isText = true)
    (same : fingerprint s = fingerprint t) : s = t := by
  obtain ⟨h, second⟩ := Settings.fingerprint_of_text text
  rw [fingerprint_of_ok second] at same
  cases first : s.fingerprint with
  | error f =>
    -- Settings that cannot be written have the empty fingerprint, and no others have it.
    rw [fingerprint, first] at same
    exact absurd same.symm (Settings.fingerprint_ne_empty second)
  | ok g =>
    rw [fingerprint_of_ok first] at same
    rw [same] at first
    exact Settings.fingerprint_injective apart first second

theorem reload_of_same (read : w.reads env = .ok s)
    (same : fingerprint w.settings = fingerprint s) : w.reload env = w.skipped := by
  have ended := reload_cases env w
  generalize w.reload env = v at ended ⊢
  cases ended with
  | failed other => simp [read] at other
  | unchanged => rfl
  | rejected text other new =>
    cases read.symm.trans other
    exact absurd same new
  | adopted text other new =>
    cases read.symm.trans other
    exact absurd same new

theorem reload_of_new {c : Collector} (read : w.reads env = .ok s)
    (new : fingerprint w.settings ≠ fingerprint s)
    (built : Collector.ofSettings s.collector w.logger.isSome = .ok c) :
    ∃ text, w.reload env = (w.complain text).adopted s c := by
  have ended := reload_cases env w
  generalize w.reload env = v at ended ⊢
  cases ended with
  | failed other => simp [read] at other
  | unchanged other same =>
    cases read.symm.trans other
    exact absurd same new
  | rejected text other _ refused =>
    cases read.symm.trans other
    simp [built] at refused
  | adopted text other _ also =>
    cases read.symm.trans other
    cases built.symm.trans also
    exact ⟨text, rfl⟩

theorem configFile_of_reads (read : w.reads env = .ok s) :
    s.paths.configFile = w.settings.paths.configFile :=
  Settings.configFile_of_load read

theorem settings_adopted (w : Watch) (s : Settings) (c : Collector) :
    (w.adopted s c).settings = s ∧ (w.adopted s c).collector = c :=
  ⟨(noted_adopted w s c).keeps.settings, (noted_adopted w s c).keeps.collector⟩

theorem reload_of_text (read : w.reads env = .ok s) (apart : w.settings.HashedApart s)
    (text : w.settings.paths.configFile.isText = true) (new : s ≠ w.settings) :
    (w.reload env).settings = s ∧
      Collector.ofSettings s.collector w.logger.isSome = .ok (w.reload env).collector := by
  have whole : s.isText = true := by
    apply (Settings.arePrintable_of_load read).isText
    rw [configFile_of_reads read]
    exact text
  obtain ⟨c, built⟩ := Settings.collector_of_load read w.logger.isSome
  have moved : fingerprint w.settings ≠ fingerprint s := by
    intro same
    exact new (fingerprint_injective apart whole same).symm
  obtain ⟨said, adopts⟩ := reload_of_new read moved built
  obtain ⟨settings, collector⟩ := settings_adopted (w.complain said) s c
  rw [adopts, settings, collector]
  exact ⟨rfl, built⟩

theorem reload_of_no_text (read : w.reads env = .ok s)
    (no_text : w.settings.paths.configFile.isText = false) : w.reload env = w.skipped := by
  apply reload_of_same read
  have also : s.paths.configFile.isText = false := by
    rw [configFile_of_reads read]
    exact no_text
  rw [fingerprint_of_no_text no_text, fingerprint_of_no_text also]

/-- What a reload makes of settings that could be read. If the path of their file is a text, they
come into use with a collector built from them, and only the same settings are skipped. If it is
none, all settings are skipped. -/
theorem reload_follows (read : w.reads env = .ok s) (apart : w.settings.HashedApart s) :
    (w.settings.paths.configFile.isText = true →
      (w.reload env).settings = s ∧
      (s ≠ w.settings →
        Collector.ofSettings s.collector w.logger.isSome = .ok (w.reload env).collector) ∧
      (w.reload env = w.skipped ↔ s = w.settings)) ∧
    (w.settings.paths.configFile.isText = false → w.reload env = w.skipped) := by
  refine ⟨?_, reload_of_no_text read⟩
  intro text
  have kept : w.skipped.settings = w.settings := (noted_skipped w).keeps.settings
  by_cases same : s = w.settings
  · have skips := reload_of_same read (by rw [same])
    refine ⟨?_, fun new => absurd same new, ⟨fun _ => same, fun _ => skips⟩⟩
    rw [skips, kept, same]
  · obtain ⟨settings, collector⟩ := reload_of_text read apart text same
    refine ⟨settings, fun _ => collector, ⟨?_, fun other => absurd other same⟩⟩
    intro skips
    rw [skips, kept] at settings
    exact settings.symm

end

theorem reload_follows_to_another_interval : ∃ after w v,
    init (.ofTree (treeWithFile [99] [])) 0 (settingsOfFile [99] 1) ⟨none, none, none⟩ =
      (after, .ok w) ∧
    Run w.begin [.raised .reload, .stepped none, .changed] v ∧
    v.settings = settingsOfFile [99] 1 ∧
    (v.reload fun _ => none).settings = settingsOfFile [99] 2 := by
  obtain ⟨after, w, v, made, run, settings, files, -, -⟩ :=
    reaches_reload_of_file [99] (documentOf "2") 1
  have read : v.reads (fun _ => none) = .ok (settingsOfFile [99] 2) := by
    rw [reads_of_file settings files (lookup_treeWithFile _)]
    decide +kernel
  have apart : v.settings.HashedApart (settingsOfFile [99] 2) := by
    rw [settings]
    apply Settings.hashedApart_of_ne
    decide +kernel
  have text : v.settings.paths.configFile.isText = true := by
    rw [settings]
    decide +kernel
  exact ⟨after, w, v, made, run, settings, ((reload_follows read apart).1 text).1⟩

/-- Settings that were read need not come into use. -/
theorem changed_settings_skipped :
    ¬ ∀ (world after : World) (epochMs : Nat) (given s : Settings) (chosen : Options) (w v : Watch)
      (es : List Event) (env : Settings.Environment),
      init world epochMs given chosen = (after, .ok w) → Run w.begin es v →
      v.reads env = .ok s → v.settings.HashedApart s → s ≠ v.settings →
      (v.reload env).settings = s := by
  intro claim
  obtain ⟨after, w, v, made, run, settings, files, -, -⟩ :=
    reaches_reload_of_file [99, 255] (documentOf "2") 1
  have read : v.reads (fun _ => none) = .ok (settingsOfFile [99, 255] 2) := by
    rw [reads_of_file settings files (by cbv)]
    decide +kernel
  have no_text : v.settings.paths.configFile.isText = false := by
    rw [settings]
    decide +kernel
  have apart : v.settings.HashedApart (settingsOfFile [99, 255] 2) := by
    intro a b written
    rw [Settings.toJson_of_no_text no_text] at written
    cases written
  have new : settingsOfFile [99, 255] 2 ≠ v.settings := by
    rw [settings]
    decide +kernel
  have follows := claim _ after 0 _ _ _ w v _ _ made run read apart new
  rw [reload_of_no_text read no_text, (noted_skipped v).keeps.settings] at follows
  exact new follows.symm

end MountProbe.Watch
