import MountProbe.Proofs.Settings.Edits
import MountProbe.Proofs.Watch.Following

/-! A watch and small edits of its settings. Whatever else two hashes may have in common, settings
that were edited in one place of their written form are taken up by the next reload. -/
namespace MountProbe.Watch

section

variable {w : Watch} {env : Settings.Environment} {s t : Settings} {cs ds : List Char}

theorem configFile_of_canonical (written : s.canonical = .ok cs) :
    s.paths.configFile.isText = true := by
  obtain ⟨v, json, -⟩ := Settings.canonical_eq_ok.mp written
  by_contra no_text
  rw [Settings.toJson_of_no_text ((Bool.not_eq_true _).mp no_text)] at json
  cases json

theorem reload_of_moved (read : w.reads env = .ok t) (written : w.settings.canonical = .ok cs)
    (moved : w.settings.fingerprint ≠ t.fingerprint) :
    (w.reload env).settings = t ∧
      Collector.ofSettings t.collector w.logger.isSome = .ok (w.reload env).collector ∧
      w.reload env ≠ w.skipped := by
  have new : t ≠ w.settings := by
    rintro same
    exact moved (by rw [same])
  obtain ⟨settings, collector⟩ := reload_of_text read (Settings.hashedApart_of_ne moved)
    (configFile_of_canonical written) new
  refine ⟨settings, collector, fun skips => ?_⟩
  rw [skips, (noted_skipped w).keeps.settings] at settings
  exact new settings.symm

/-- Each byte moves a hash by a bijection. So settings whose written form was edited in one byte, or
in one character that takes as many bytes, have another fingerprint, and a watch that finds them
when it reloads never takes them for unchanged: they come into use, with a collector of theirs. -/
theorem edits_come_into_use (first : s.canonical = .ok cs) (second : t.canonical = .ok ds)
    (edit : Settings.OneEdit cs ds) :
    (∀ b, Function.Bijective (Settings.mixByte · b)) ∧
    (∃ h k, s.fingerprint = .ok h ∧ t.fingerprint = .ok k ∧ h ≠ k) ∧
    ∀ (w : Watch) env, w.settings = s → w.reads env = .ok t →
      ((w.reload env).settings = t ∧
        Collector.ofSettings t.collector w.logger.isSome = .ok (w.reload env).collector ∧
        w.reload env ≠ w.skipped) ∧
      ∀ host, w.answers? = some .reload → (w.step host env).settings = t := by
  have moved := Settings.fingerprint_ne_of_edit first second edit
  have given := Settings.fingerprint_of_canonical first
  have given' := Settings.fingerprint_of_canonical second
  refine ⟨Settings.mixByte_bijective, ⟨_, _, given, given', fun same => ?_⟩, ?_⟩
  · rw [given, given', same] at moved
    exact moved rfl
  · rintro w env rfl read
    refine ⟨reload_of_moved read first moved, fun host asked => ?_⟩
    rw [step_of_reload asked]
    exact (reload_of_moved (w := { w with signals := w.signals.withoutReload }) read first moved).1

end

/-- A digit of the interval is edited while a watch is running. -/
theorem edits_come_into_use_in_a_digit : ∃ before after w v world,
    (settingsOfFile [99] 1).canonical = .ok (before ++ '1' :: after) ∧
    (settingsOfFile [99] 2).canonical = .ok (before ++ '2' :: after) ∧
    init (.ofTree (treeWithFile [99] [])) 0 (settingsOfFile [99] 1) ⟨none, none, none⟩ =
      (world, .ok w) ∧
    Run w.begin [.raised .reload, .stepped none, .changed] v ∧ v.answers? = some .reload ∧
    (v.step emptyHost fun _ => none).settings = settingsOfFile [99] 2 := by
  obtain ⟨world, w, v, made, run, settings, files, asked, -⟩ :=
    reaches_reload_of_file [99] (documentOf "2") 1
  have read : v.reads (fun _ => none) = .ok (settingsOfFile [99] 2) := by
    rw [reads_of_file settings files (lookup_treeWithFile _)]
    decide +kernel
  let text := ((settingsOfFile [99] 1).canonical.toOption).getD []
  let before := text.take 395
  let after := text.drop 396
  have first : (settingsOfFile [99] 1).canonical = .ok (before ++ '1' :: after) := by
    decide +kernel
  have second : (settingsOfFile [99] 2).canonical = .ok (before ++ '2' :: after) := by
    decide +kernel
  have edit : Settings.OneEdit (before ++ '1' :: after) (before ++ '2' :: after) :=
    .inr ⟨before, after, '1', '2', by decide, by decide, rfl, rfl⟩
  obtain ⟨-, -, reloads⟩ := edits_come_into_use first second edit
  exact ⟨before, after, w, v, world, first, second, made, run, asked,
    (reloads v _ settings read).2 emptyHost asked⟩

end MountProbe.Watch
