import MountProbe.Proofs.Settings.Layers

/-! Settings that have been loaded, finished a second time. The patterns stay as they are, because
the check lets no exclude pattern stand beside an include pattern. A path stays as it is just if it
does not end in a slash; one that was chosen with two slashes at its end still has one, loses it now,
and gives the settings another structured output. -/
namespace MountProbe

namespace Settings

variable {s o : Settings} {env : Environment} {find : Path → Found} {asked : Option Path}

/-- None of the paths that settings leave a slash out of ends in one, the root apart. -/
structure SlashFree (s : Settings) : Prop where
  procPath : ¬ s.paths.procPath.EndsInSlash
  rootfsPath : ¬ s.paths.rootfsPath.EndsInSlash
  jsonlLog : ¬ s.paths.jsonlLog.EndsInSlash

theorem excludeInForce_of_checked {usual exclude includeOnly : String}
    (one : exclude = "" ∨ includeOnly = "") :
    excludeInForce usual exclude includeOnly = exclude := by
  unfold excludeInForce
  split
  · rename_i usual_beside
    rcases one with none | none
    · exact none.symm
    · exact absurd none usual_beside.1
  · rfl

theorem withoutUsualExcludes_of_valid (valid : s.Valid) :
    withoutUsualExcludes s.collector = s.collector := by
  simp only [withoutUsualExcludes_eq, excludeInForce_of_checked valid.mountPoints,
    excludeInForce_of_checked valid.fsTypes]

theorem finished_of_valid (valid : s.Valid) : s.finished = s.normalized := by
  simp only [finished, withoutUsualExcludes_of_valid valid]

theorem normalized_eq_self (printable : s.ArePrintable) : s.normalized = s ↔ s.SlashFree := by
  have proc := withoutSlash_eq_self printable.paths.procPath
  have rootfs := withoutSlash_eq_self printable.paths.rootfsPath
  have log := withoutSlash_eq_self printable.paths.jsonlLog
  constructor
  · intro same
    constructor
    · apply proc.mp
      rw [← procPath_normalized, same]
    · apply rootfs.mp
      rw [← rootfsPath_normalized, same]
    · apply log.mp
      rw [← jsonlLog_normalized, same]
  · intro free
    simp only [normalized, proc.mpr free.procPath, rootfs.mpr free.rootfsPath,
      log.mpr free.jsonlLog]

theorem render_finished {v w : Json} (valid : s.Valid) (printable : s.ArePrintable)
    (written : s.toJson = .ok v) (again : s.finished.toJson = .ok w) :
    w.render = v.render ↔ s.SlashFree := by
  have settled := finished_of_valid valid ▸ normalized_eq_self printable
  constructor
  · intro same
    exact settled.mp (render_injective again written same)
  · intro free
    have same := settled.mpr free
    rw [same] at again
    cases written.symm.trans again
    rfl

theorem fingerprint_finished {h : String} (valid : s.Valid) (printable : s.ArePrintable)
    (apart : HashedApart s.finished s) (fingerprinted : s.fingerprint = .ok h) :
    s.finished.fingerprint = .ok h ↔ s.SlashFree := by
  have settled := finished_of_valid valid ▸ normalized_eq_self printable
  constructor
  · intro again
    exact settled.mp (fingerprint_injective apart again fingerprinted)
  · intro free
    rw [settled.mpr free]
    exact fingerprinted

theorem load_of_shown {text : String} (valid : s.Valid)
    (found : find s.paths.configFile = some (.ok (Text.utf8 text.toList)))
    (readBack : read text = .ok s) :
    load (some s.paths.configFile) find (fun _ => none) = .ok s.finished := by
  have decoded := (Path.text?_eq_some (p := ⟨Text.utf8 text.toList⟩)).mpr rfl
  have based : base true s.paths.configFile (find s.paths.configFile) = .ok s := by
    simp only [base, textOfFile, found, decoded]
    exact bind_eq_ok.mpr ⟨text, rfl, readBack⟩
  have forced : inForce (some s.paths.configFile) find (fun _ => none) = .ok s.finished := by
    refine bind_eq_ok.mpr ⟨s, based, bind_eq_ok.mpr ⟨s, overridden_of_unset (fun _ => rfl) s, rfl⟩⟩
  have checked : check s.finished = .ok () := by
    have alike : check s.finished = check s :=
      check_congr (withoutUsualExcludes_of_valid valid) rfl rfl
    exact alike.trans ((check_checks s).ok_iff.mpr valid)
  rw [load_eq, forced]
  exact bind_eq_ok.mpr ⟨_, rfl, bind_eq_ok.mpr ⟨(), checked, rfl⟩⟩

/-- What finishing makes of settings that are in use. -/
structure FinishedAgain (s : Settings) : Prop where
  patterns : withoutUsualExcludes s.collector = s.collector
  same : s.finished = s ↔ s.SlashFree
  output : ∀ v w, s.toJson = .ok v → s.finished.toJson = .ok w →
    (w.render = v.render ↔ s.SlashFree)
  fingerprint : ∀ h, s.fingerprint = .ok h → HashedApart s.finished s →
    (s.finished.fingerprint = .ok h ↔ s.SlashFree)
  /-- If a document that shows the settings can be read back, it is loaded as this. -/
  shown : ∀ text, s.toDocument = .ok text → read text = .ok s →
    ∀ find, find s.paths.configFile = some (.ok (Text.utf8 text.toList)) →
      load (some s.paths.configFile) find (fun _ => none) = .ok s.finished

/-- A path in use ends in a slash just if it was chosen with two. -/
structure LeftSlashes (chosen s : Settings) : Prop where
  procPath : s.paths.procPath.EndsInSlash ↔ chosen.paths.procPath.EndsInTwo
  rootfsPath : s.paths.rootfsPath.EndsInSlash ↔ chosen.paths.rootfsPath.EndsInTwo
  jsonlLog : s.paths.jsonlLog.EndsInSlash ↔ chosen.paths.jsonlLog.EndsInTwo

theorem finishedAgain (valid : s.Valid) (printable : s.ArePrintable) : FinishedAgain s := by
  constructor
  · exact withoutUsualExcludes_of_valid valid
  · exact finished_of_valid valid ▸ normalized_eq_self printable
  · intro v w written again
    exact render_finished valid printable written again
  · intro h fingerprinted apart
    exact fingerprint_finished valid printable apart fingerprinted
  · intro text _ readBack find found
    exact load_of_shown valid found readBack

theorem leftSlashes_finished (printable : o.ArePrintable) : LeftSlashes o o.finished := by
  constructor
  · rw [finished, procPath_normalized]
    exact endsInSlash_withoutSlash printable.paths.procPath
  · rw [finished, rootfsPath_normalized]
    exact endsInSlash_withoutSlash printable.paths.rootfsPath
  · rw [finished, jsonlLog_normalized]
    exact endsInSlash_withoutSlash printable.paths.jsonlLog

/-- Settings that have been loaded change when they are finished again just if a path was chosen
with two slashes at its end. -/
theorem loaded_settings_finished_again (loaded : load asked find env = .ok s) :
    FinishedAgain s ∧ ∃ file chosen,
      base asked.isSome (asked.getD PathSettings.usual.configFile)
        (find (asked.getD PathSettings.usual.configFile)) = .ok file ∧
      overridden env { file with paths := {
        file.paths with configFile := asked.getD PathSettings.usual.configFile } } = .ok chosen ∧
      s = chosen.finished ∧ LeftSlashes chosen s := by
  have printable := arePrintable_of_load loaded
  have valid := (((loadsValid asked find env).loads s).mp loaded).2
  obtain ⟨file, chosen, based, overrides, whole, -⟩ := load_eq_ok loaded
  have texts := base_arePrintable based
  have chosen_texts := (overridden_of_ok overrides).arePrintable ⟨⟨texts.paths.procPath,
    texts.paths.rootfsPath, texts.paths.jsonlLog⟩, texts.watch⟩
  refine ⟨finishedAgain valid printable, file, chosen, based, overrides, whole, ?_⟩
  rw [whole]
  exact leftSlashes_finished chosen_texts

theorem usual_settings_finished_again :
    load none (fun _ => none) (fun _ => none) = .ok Settings.usual ∧ FinishedAgain Settings.usual ∧
      Settings.usual.finished = Settings.usual := by
  obtain ⟨again, -⟩ := loaded_settings_finished_again load_usual
  have free : Settings.usual.SlashFree := by constructor <;> decide +kernel
  exact ⟨load_usual, again, again.same.mpr free⟩

/-- The tree of processes is named with two slashes at its end. -/
def slashesEnvironment : Environment := fun name =>
  if name = "MOUNTGUARD_PROC_PATH" then some (Text.utf8 "/proc//".toList) else none

def withProcesses (p : Path) : Settings :=
  { Settings.usual with
    paths := { PathSettings.usual with configFile := .ofString "c", procPath := p } }

theorem text?_slashes (name : String) : slashesEnvironment.text? name =
    if name = "MOUNTGUARD_PROC_PATH" then some "/proc//" else none := by
  unfold Environment.text? slashesEnvironment
  split
  · decide +kernel
  · rfl

theorem finished_withProcesses (p : Path) :
    (withProcesses p).finished = withProcesses (withoutSlash p) := by
  obtain ⟨-, rootfs, log⟩ := withoutSlash_usual
  simp only [finished, normalized, withProcesses, Settings.usual, withoutUsualExcludes_usual,
    rootfs, log]

theorem load_with_slashes :
    load (some (.ofString "c")) (fun _ => some (.ok [])) slashesEnvironment =
      .ok (withProcesses (.ofString "/proc/")) := by
  have overrides : overridden slashesEnvironment (withProcesses (.ofString "/proc")) =
      .ok (withProcesses (.ofString "/proc//")) := by
    simp [overridden, wholeFrom, truthFrom, textFrom, pathFrom, text?_slashes]
    rfl
  have shorter : withoutSlash (.ofString "/proc//") = .ofString "/proc/" := by decide +kernel
  have found : inForce (some (.ofString "c")) (fun _ => some (.ok [])) slashesEnvironment =
      .ok (withProcesses (.ofString "/proc/")) := by
    refine (inForce_of_empty_file _ _).trans ?_
    exact bind_eq_ok.mpr ⟨_, overrides, by rw [finished_withProcesses, shorter]⟩
  have checked : check (withProcesses (.ofString "/proc/")) = .ok () :=
    (check_congr rfl rfl rfl).trans check_usual
  rw [load_eq, found]
  exact bind_eq_ok.mpr ⟨_, rfl, bind_eq_ok.mpr ⟨(), checked, rfl⟩⟩

/-- One slash is left of two, and is left out when the settings are finished again. -/
theorem slash_left_over :
    ∃ s, load (some (.ofString "c")) (fun _ => some (.ok [])) slashesEnvironment = .ok s ∧
      s.paths.procPath = .ofString "/proc/" ∧ s.finished.paths.procPath = .ofString "/proc" ∧
      ∃ v w, s.toJson = .ok v ∧ s.finished.toJson = .ok w ∧ w.render ≠ v.render := by
  have shorter : withoutSlash (.ofString "/proc/") = .ofString "/proc" := by decide +kernel
  have again : (withProcesses (.ofString "/proc/")).finished =
      withProcesses (.ofString "/proc") := by
    rw [finished_withProcesses, shorter]
  obtain ⟨v, written⟩ : ∃ v, (withProcesses (.ofString "/proc/")).toJson = .ok v :=
    toJson_of_text (by decide +kernel)
  obtain ⟨w, written'⟩ : ∃ w, (withProcesses (.ofString "/proc")).toJson = .ok w :=
    toJson_of_text (by decide +kernel)
  refine ⟨_, load_with_slashes, rfl, by rw [again]; rfl, v, w, written, again ▸ written', ?_⟩
  intro same
  have equal := congrArg (fun s => s.paths.procPath) (render_injective written' written same)
  exact absurd equal (by decide)

end Settings

end MountProbe
