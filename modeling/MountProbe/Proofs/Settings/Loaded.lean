import MountProbe.Proofs.Pattern.Usual
import MountProbe.Proofs.Settings.Checked
import MountProbe.Proofs.Settings.Environment
import MountProbe.Proofs.Settings.Fingerprint

namespace MountProbe

open Toml (Value Fault Entries)

/-- All paths are texts but for that of the settings' own file, which need not be one. -/
structure PathSettings.ArePrintable (p : PathSettings) : Prop where
  procPath : p.procPath.isText = true
  rootfsPath : p.rootfsPath.isText = true
  jsonlLog : p.jsonlLog.isText = true

namespace Settings

variable {s t : Settings} {env : Environment} {find : Path → Found} {asked : Option Path}
  {p : Path}

structure ArePrintable (s : Settings) : Prop where
  paths : s.paths.ArePrintable
  watch : s.watch.isText = true

theorem ArePrintable.isText (printable : s.ArePrintable)
    (text : s.paths.configFile.isText = true) : s.isText = true := by
  rw [Settings.isText, PathSettings.areTexts, text, printable.paths.procPath,
    printable.paths.rootfsPath, printable.paths.jsonlLog, printable.watch]
  rfl

theorem arePrintable_usual : Settings.usual.ArePrintable :=
  ⟨⟨Path.isText_ofString _, Path.isText_ofString _, Path.isText_ofString _⟩, rfl⟩

theorem setting_cases {α : Type} {read : Value → Except Fault α} {es : Entries} {name : String}
    {usual a : α} (given : setting read es name usual = .ok a) :
    a = usual ∨ ∃ v, read v = .ok a := by
  unfold setting at given
  split at given
  · cases given
    exact .inl rfl
  · exact .inr ⟨_, given⟩

theorem isText_of_pathOf {v : Value} (given : pathOf v = .ok p) : p.isText = true := by
  unfold pathOf at given
  cases text : textOf v with
  | error fault =>
    rw [text] at given
    cases given
  | ok s =>
    rw [text] at given
    cases given
    exact Path.isText_ofString s

theorem isText_of_setting {es : Entries} {name : String} {usual : Path}
    (text : usual.isText = true) (given : setting pathOf es name usual = .ok p) :
    p.isText = true := by
  rcases setting_cases given with rfl | ⟨v, read⟩
  · exact text
  · exact isText_of_pathOf read

theorem readPaths_arePrintable {v : Value} {paths : PathSettings}
    (given : readPaths v = .ok paths) : paths.ArePrintable := by
  unfold readPaths at given
  simp only [bind_eq_ok] at given
  obtain ⟨es, -, configFile, -, procPath, proc, rootfsPath, rootfs, jsonlLog, log, whole⟩ := given
  cases whole
  have usual := arePrintable_usual.paths
  exact ⟨isText_of_setting usual.procPath proc, isText_of_setting usual.rootfsPath rootfs,
    isText_of_setting usual.jsonlLog log⟩

theorem readWatch_isText {v : Value} {watch : WatchSettings} (given : readWatch v = .ok watch) :
    watch.isText = true := by
  unfold readWatch at given
  simp only [bind_eq_ok] at given
  obtain ⟨es, -, interval, -, outputFile, output, whole⟩ := given
  cases whole
  rcases setting_cases output with rfl | ⟨v, read⟩
  · rfl
  · cases named : pathOf v with
    | error fault =>
      rw [named] at read
      cases read
    | ok p =>
      rw [named] at read
      cases read
      exact isText_of_pathOf named

theorem ofDocument_arePrintable {es : Entries} (given : ofDocument es = .ok s) :
    s.ArePrintable := by
  unfold ofDocument at given
  simp only [bind_eq_ok] at given
  obtain ⟨collector, -, paths, readPaths, logging, -, watch, readWatch, whole⟩ := given
  cases whole
  constructor
  · rcases setting_cases readPaths with rfl | ⟨v, read⟩
    · exact arePrintable_usual.paths
    · exact readPaths_arePrintable read
  · rcases setting_cases readWatch with rfl | ⟨v, read⟩
    · rfl
    · exact readWatch_isText read

theorem base_arePrintable {explicit : Bool} {found : Found}
    (given : base explicit p found = .ok s) : s.ArePrintable := by
  cases found with
  | none =>
    cases explicit with
    | true => cases given
    | false =>
      cases given
      exact arePrintable_usual
  | some contents =>
    obtain ⟨text, -, read⟩ := bind_eq_ok.mp given
    unfold Settings.read at read
    split at read
    · rename_i document
      cases read
      obtain ⟨es, -, settings⟩ := bind_eq_ok.mp document
      exact ofDocument_arePrintable settings
    · cases read

theorem pathFrom_isText (name : String) (text : p.isText = true) :
    (pathFrom env name p).isText = true := by
  unfold pathFrom
  cases env.text? name with
  | none => exact text
  | some raw => exact Path.isText_ofString raw

structure Overridden (s t : Settings) : Prop where
  configFile : t.paths.configFile = s.paths.configFile
  arePrintable : s.ArePrintable → t.ArePrintable

theorem overridden_of_ok (given : overridden env s = .ok t) : Overridden s t := by
  unfold overridden at given
  simp only [bind_eq_ok] at given
  obtain ⟨timeout, -, workers, -, enabled, -, verbose, -, interval, -, whole⟩ := given
  cases whole
  refine ⟨rfl, fun printable => ⟨⟨?_, ?_, ?_⟩, ?_⟩⟩
  · exact pathFrom_isText _ printable.paths.procPath
  · exact pathFrom_isText _ printable.paths.rootfsPath
  · exact pathFrom_isText _ printable.paths.jsonlLog
  · have watch := printable.watch
    unfold WatchSettings.isText at watch ⊢
    dsimp only
    split
    · exact Path.isText_ofString _
    · exact watch

theorem withoutSlash_isText (text : p.isText = true) : (withoutSlash p).isText = true := by
  unfold withoutSlash
  dsimp only
  split
  · have shortened := Path.isText_ofString (String.ofList p.display.toList.dropLast)
    rwa [Path.ofString, String.toList_ofList] at shortened
  · exact text

theorem normalized_arePrintable (printable : s.ArePrintable) : s.normalized.ArePrintable := by
  refine ⟨⟨?_, ?_, ?_⟩, ?_⟩
  all_goals dsimp only [normalized]
  · exact withoutSlash_isText printable.paths.procPath
  · exact withoutSlash_isText printable.paths.rootfsPath
  · exact withoutSlash_isText printable.paths.jsonlLog
  · exact printable.watch

theorem procPath_normalized (s : Settings) :
    s.normalized.paths.procPath = withoutSlash s.paths.procPath := by
  simp only [normalized]

theorem rootfsPath_normalized (s : Settings) :
    s.normalized.paths.rootfsPath = withoutSlash s.paths.rootfsPath := by
  simp only [normalized]

theorem jsonlLog_normalized (s : Settings) :
    s.normalized.paths.jsonlLog = withoutSlash s.paths.jsonlLog := by
  simp only [normalized]

theorem configFile_normalized (s : Settings) :
    s.normalized.paths.configFile = s.paths.configFile :=
  rfl

section

variable [Patterns]

theorem load_eq_ok (loaded : load asked find env = .ok s) :
    ∃ b o, base asked.isSome (asked.getD PathSettings.usual.configFile)
        (find (asked.getD PathSettings.usual.configFile)) = .ok b ∧
      overridden env { b with paths := {
        b.paths with configFile := asked.getD PathSettings.usual.configFile } } = .ok o ∧
      s = normalized { o with collector := withoutUsualExcludes o.collector } ∧
      check s = .ok () := by
  unfold load at loaded
  simp only [bind_eq_ok] at loaded
  obtain ⟨b, based, o, overrides, _, checked, whole⟩ := loaded
  cases whole
  exact ⟨b, o, based, overrides, rfl, checked⟩

theorem configFile_of_load (loaded : load asked find env = .ok s) :
    s.paths.configFile = asked.getD PathSettings.usual.configFile := by
  obtain ⟨b, o, -, overrides, rfl, -⟩ := load_eq_ok loaded
  rw [configFile_normalized]
  exact (overridden_of_ok overrides).configFile

theorem arePrintable_of_load (loaded : load asked find env = .ok s) : s.ArePrintable := by
  obtain ⟨b, o, based, overrides, rfl, -⟩ := load_eq_ok loaded
  have printable := base_arePrintable based
  have overridden := (overridden_of_ok overrides).arePrintable ⟨⟨printable.paths.procPath,
    printable.paths.rootfsPath, printable.paths.jsonlLog⟩, printable.watch⟩
  exact normalized_arePrintable ⟨overridden.paths, overridden.watch⟩

theorem collector_of_load (loaded : load asked find env = .ok s) (logged : Bool) :
    ∃ c, Collector.ofSettings s.collector logged = .ok c := by
  obtain ⟨_, _, -, -, -, checked⟩ := load_eq_ok loaded
  exact (Collector.built_iff logged).mpr ((check_checks s).ok_iff.mp checked).patterns

theorem load_of_found {found : Found} (finds : find p = found) :
    load (some p) find env = load (some p) (fun _ => found) env := by
  rw [load, load, Option.getD_some, finds]

theorem load_of_there {contents : Except IoFault Bytes}
    (there : find (asked.getD PathSettings.usual.configFile) = some contents) :
    load asked find env =
      load (some (asked.getD PathSettings.usual.configFile)) (fun _ => some contents) env := by
  rw [load, load, Option.getD_some, there]
  rfl

theorem load_of_missing (p : Path) (env : Environment) :
    load (some p) (fun _ => none) env = .error (.missingConfig p) :=
  rfl

end

theorem checkPatterns_of_exclude {target exclude : String} {e : Pattern.Expr}
    (read : Pattern.read exclude.toList = .ok e) : checkPatterns target exclude "" = .ok () := by
  have alone : ¬ (¬ exclude.isEmpty = true ∧ ¬ "".isEmpty = true) := by simp
  simp only [checkPatterns, checkPattern, Patterns.compile, read, if_neg alone, ite_self]
  rfl

theorem check_usual : check Settings.usual = .ok () := by
  have mountPoints : checkPatterns "mount_points" CollectorSettings.usualMountPointsExclude "" =
      .ok () := checkPatterns_of_exclude read_usualMountPointsExclude
  have fsTypes : checkPatterns "fs_types" CollectorSettings.usualFsTypesExclude "" = .ok () :=
    checkPatterns_of_exclude read_usualFsTypesExclude
  simp only [check, Settings.usual, CollectorSettings.usual, mountPoints, fsTypes]
  rfl

theorem withoutUsualExcludes_usual :
    withoutUsualExcludes CollectorSettings.usual = CollectorSettings.usual :=
  rfl

theorem withoutSlash_usual :
    withoutSlash PathSettings.usual.procPath = PathSettings.usual.procPath ∧
    withoutSlash PathSettings.usual.rootfsPath = PathSettings.usual.rootfsPath ∧
    withoutSlash PathSettings.usual.jsonlLog = PathSettings.usual.jsonlLog := by
  decide +kernel

theorem normalized_usual : normalized { Settings.usual with
    collector := withoutUsualExcludes Settings.usual.collector } = Settings.usual := by
  obtain ⟨proc, rootfs, log⟩ := withoutSlash_usual
  simp only [normalized, Settings.usual, withoutUsualExcludes_usual, proc, rootfs, log]

theorem load_usual : load none (fun _ => none) (fun _ => none) = .ok Settings.usual := by
  have overrides : overridden (fun _ => none) Settings.usual = .ok Settings.usual :=
    overridden_of_unset (fun _ => rfl) _
  have checked := (congrArg check normalized_usual).trans check_usual
  refine bind_eq_ok.mpr ⟨Settings.usual, rfl, bind_eq_ok.mpr ⟨Settings.usual, overrides, ?_⟩⟩
  exact bind_eq_ok.mpr ⟨(), checked, congrArg Except.ok normalized_usual⟩

end Settings

end MountProbe
