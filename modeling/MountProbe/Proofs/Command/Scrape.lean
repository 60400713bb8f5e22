import Mathlib.Data.List.Permutation
import MountProbe.Proofs.Collector.Agreement
import MountProbe.Proofs.Failing
import MountProbe.Proofs.Json.Line
import MountProbe.Proofs.Mount.Source
import MountProbe.Proofs.Path.Text
import MountProbe.Proofs.Watch.Cycles

/-! What a scrape prints as structured output. A path that is no text cannot be written there, so
the one line is printed, with an item for each accepted row in the order of their places, when all
accepted mount points are texts. One that is not fails the command. -/
namespace MountProbe

namespace Stuck

open Race (Step Run Event)

variable {κ : Type}

/-- Every entry is under the name that a call has for its place. -/
theorem named_by_call {es : List (Event κ)} {r : Race κ} (run : Run ⟨.empty, []⟩ es r) :
    ∀ e ∈ r.registry.entries, ∃ c ∈ r.calls, c.path = e.path := by
  induction run with
  | refl => exact fun e member => by cases member
  | @step r s es ev _ step ih =>
    intro e member
    have still : e ∈ r.registry.entries → ∃ c ∈ s.calls, c.path = e.path := by
      intro before
      obtain ⟨c, made, path⟩ := ih e before
      obtain ⟨i, call⟩ := List.mem_iff_getElem?.mp made
      obtain ⟨c', after, later⟩ := Race.call_after step call
      exact ⟨c', List.mem_of_getElem? after, later.path_eq.trans path⟩
    cases ev with
    | started p client =>
      rw [Race.step_started step] at member
      exact still member
    | did i d =>
      obtain ⟨c, c', call, does, calls, registry⟩ := Race.step_did step
      have here : c' ∈ s.calls := by
        rw [calls]
        exact List.mem_of_getElem? (Race.getElem?_set_self call c')
      rw [registry] at member
      unfold Registry.after at member
      split at member
      · exact still (List.mem_filter.mp member).1
      · unfold Registry.mark at member
        split at member
        · exact still member
        · rcases List.mem_cons.mp member with rfl | before
          · exact ⟨c', here, does.path_eq⟩
          · exact still before
      · exact still member

end Stuck

namespace Timetable

/-- After the first scrape the registry has accepted mount points only, spelled as in the table. -/
theorem entries_of_first_scrape (conduct : Path → Conduct) (c : Collector)
    (mounts : List Mount.Label) :
    ∀ e ∈ (empty.scrape conduct c mounts).1.traffic.race.registry.entries,
      ∃ l ∈ c.accepted mounts, l.mountPoint = e.path := by
  intro e member
  obtain ⟨es, scraped⟩ := between_empty.scraped conduct c mounts
  obtain ⟨_, turns⟩ := (between_empty.scrape conduct c mounts).turns
  have tidy := Traffic.tidy_of_turns turns
  obtain ⟨deeds, run⟩ := turns.run.race
  obtain ⟨call, made, path⟩ := Stuck.named_by_call run e member
  obtain ⟨i, owner⟩ := tidy.owned call made
  have one_cycle : (empty.scrape conduct c mounts).1.traffic.cycles.length = 1 := by
    have ended := scrape_ended conduct c mounts between_empty.steady between_empty.orderly
    rw [ended.moves.cycles_length, Traffic.begin_cycles]
    rfl
  have first := tidy.orderly.cycle_lt call made i owner
  obtain rfl : i = 0 := by omega
  have mine : call.path ∈ ((empty.scrape conduct c mounts).1.traffic.callsOf 0).map (·.path) :=
    List.mem_map_of_mem (List.mem_filter.mpr ⟨made, by simpa using owner⟩)
  have called := scraped.called
  rw [show empty.traffic.cycles.length = 0 from rfl] at called
  rw [called] at mine
  obtain ⟨a, admitted, same⟩ := List.mem_map.mp mine
  have accepted := scraped.admitted a (List.mem_filter.mp admitted).1
  exact ⟨a.1, Traffic.mem_accepted.mpr accepted, same.trans path⟩

end Timetable

theorem Mount.Label.toJson_of_text {l : Mount.Label} (text : l.mountPoint.isText = true) :
    ∃ v, l.toJson = .ok v := by
  obtain ⟨v, path⟩ := pathJson_of_text text
  exact ⟨_, by rw [toJson, path]; rfl⟩

theorem Mount.Label.toJson_of_no_text {l : Mount.Label} (no_text : l.mountPoint.isText = false) :
    l.toJson = .error unwritablePath := by
  rw [toJson, pathJson_of_no_text no_text]
  rfl

theorem Stat.Record.toJson_of_text {r : Stat.Record} (text : r.mountPoint.isText = true) :
    ∃ v, r.toJson = .ok v := by
  obtain ⟨v, label⟩ := Mount.Label.toJson_of_text text
  exact ⟨_, by rw [toJson, label]; rfl⟩

theorem Stat.Record.toJson_of_no_text {r : Stat.Record} (no_text : r.mountPoint.isText = false) :
    r.toJson = .error unwritablePath := by
  rw [toJson, Mount.Label.toJson_of_no_text no_text]
  rfl

namespace Command

variable {inv : Invocation} {s : Setting} {w : World} {settings : Settings} {c : Collector}
  {mounts : List Mount.Label}

/-- The fields of what a scrape prints, with an item for each record. -/
def scrapeObject (settings : Settings) (c : Collector) (items stuck : List Json) : Json :=
  .object [("command", .text "scrape"),
    ("mount_timeout_ms", .whole settings.collector.mountTimeoutMs),
    ("workers", .whole c.workers), ("records", .list items), ("stuck", .list stuck)]

theorem scrapeJson_of_texts (settings : Settings) (c : Collector) {records : List Stat.Record}
    (texts : ∀ r ∈ records, r.mountPoint.isText = true)
    (stuck_texts : ∀ e ∈ w.timetable.traffic.race.registry.entries, e.path.isText = true) :
    ∃ items stuck, (inOrder records).mapM Stat.Record.toJson = .ok items ∧
      scrapeJson settings c w records = .ok (scrapeObject settings c items stuck) := by
  have sorted := List.mergeSort_perm records fun a b =>
    a.mountPoint.compareByComponents b.mountPoint != .gt
  have each_record : ∀ r ∈ inOrder records, ∃ v, r.toJson = .ok v := fun r member =>
    Stat.Record.toJson_of_text (texts r (sorted.mem_iff.mp member))
  have each_entry : ∀ e ∈ w.timetable.traffic.race.registry.sorted,
      ∃ v, entryJson w.timetable.now e = .ok v := by
    intro e member
    have listed := (List.mergeSort_perm w.timetable.traffic.race.registry.entries _).mem_iff.mp
      member
    obtain ⟨v, path⟩ := Mount.Label.pathJson_of_text (stuck_texts e listed)
    rw [entryJson, path]
    exact ⟨_, rfl⟩
  obtain ⟨items, written⟩ := mapM_ok each_record
  obtain ⟨stuck, named⟩ := mapM_ok each_entry
  refine ⟨items, stuck, written, ?_⟩
  rw [scrapeJson, written, named]
  rfl

theorem scrapeJson_of_no_text {records : List Stat.Record}
    (no_text : ∃ r ∈ records, r.mountPoint.isText = false) :
    scrapeJson settings c w records = .error unwritablePath := by
  have sorted := List.mergeSort_perm records fun a b =>
    a.mountPoint.compareByComponents b.mountPoint != .gt
  have fails : (inOrder records).mapM Stat.Record.toJson = .error unwritablePath := by
    refine mapM_error (fun r _ => ?_) ?_
    · cases text : r.mountPoint.isText with
      | true => exact .inl (Stat.Record.toJson_of_text text)
      | false => exact .inr (Stat.Record.toJson_of_no_text text)
    · obtain ⟨r, member, none⟩ := no_text
      exact ⟨r, sorted.mem_iff.mpr member, Stat.Record.toJson_of_no_text none⟩
  rw [scrapeJson, fails]
  rfl

/-- The records of the accepted rows, each once, in the order of their places, and what is written
of each. -/
structure Listing (c : Collector) (mounts : List Mount.Label) (records : List Stat.Record)
    (items : List Json) : Prop where
  rows : (records.map (·.row)).Perm ((c.accepted mounts).map (·.row))
  sorted : records.Pairwise fun a b => a.mountPoint.compareByComponents b.mountPoint ≠ .gt
  written : records.mapM Stat.Record.toJson = .ok items

/-- What the first scrape finds, and what it leaves as it was. -/
structure FirstScrape (host : Host) (c : Collector) (mounts : List Mount.Label) (w after : World)
    (records : List Stat.Record) : Prop where
  scraped : w.scrape host c = (after, .ok records)
  output : after.output = w.output
  errors : after.scene.errors = w.scene.errors ++ (host.table w.tree).warnings
  rows : (records.map (·.row)).Perm ((c.accepted mounts).map (·.row))
  stuck : ∀ e ∈ after.timetable.traffic.race.registry.entries,
    ∃ l ∈ c.accepted mounts, l.mountPoint = e.path

theorem firstScrape {host : Host} (fresh : w.timetable = .empty)
    (found : (host.table w.tree).mounts = .ok mounts) :
    ∃ after records, FirstScrape host c mounts w after records := by
  obtain ⟨es, scraped⟩ := Timetable.between_empty.scraped host.conduct c mounts
  refine ⟨{ w.complain (host.table w.tree).warnings with
    timetable := (Timetable.empty.scrape host.conduct c mounts).1 },
    (Timetable.empty.scrape host.conduct c mounts).2, ?_, rfl, rfl, ?_,
    Timetable.entries_of_first_scrape host.conduct c mounts⟩
  · rw [World.scrape, World.mounts, found, ← fresh]
    rfl
  · have rows := scraped.rows
    rw [← Traffic.verdicts_accepted, List.map_map]
    exact rows

theorem FirstScrape.place {host : Host} {after : World} {records : List Stat.Record}
    (first : FirstScrape host c mounts w after records) {r : Stat.Record} (member : r ∈ records) :
    ∃ l ∈ c.accepted mounts, l.mountPoint = r.mountPoint := by
  have row := first.rows.mem_iff.mp (List.mem_map_of_mem member)
  obtain ⟨l, accepted, same⟩ := List.mem_map.mp row
  exact ⟨l, accepted, (Stat.Record.mountPoint_of_row same.symm).symm⟩

theorem FirstScrape.record {host : Host} {after : World} {records : List Stat.Record}
    (first : FirstScrape host c mounts w after records) {l : Mount.Label}
    (accepted : l ∈ c.accepted mounts) : ∃ r ∈ records, r.mountPoint = l.mountPoint := by
  have row := first.rows.mem_iff.mpr (List.mem_map_of_mem accepted)
  obtain ⟨r, member, same⟩ := List.mem_map.mp row
  exact ⟨r, member, Stat.Record.mountPoint_of_row same⟩

theorem runScrape_of_scraped {byTable : Bool} {after : World} {records : List Stat.Record}
    (asked : inv.json = true) (configured : settingsOf inv s w = .ok settings)
    (usable : collectorOf settings = .ok c)
    (scraped : w.scrape (s.host settings) c = (after, .ok records)) :
    runScrape inv s byTable w =
      match scrapeJson settings c after records with
      | .ok v => (printJson after v, .ok ())
      | .error f => (after, .error (.ofPrinting f)) := by
  rw [runScrape, configured]
  cases written : scrapeJson settings c after records <;>
    simp only [bind, Except.bind, pure, Except.pure, usable, scraped, asked, if_true, written]

/-- Asked for structured output of a table in which all accepted mount points are texts, a scrape
prints one line. -/
theorem start_of_texts {byTable : Bool} (task : inv.task = .scrape byTable)
    (asked : inv.json = true) (fresh : w.timetable = .empty)
    (configured : settingsOf inv s w = .ok settings) (usable : collectorOf settings = .ok c)
    (found : ((s.host settings).table w.tree).mounts = .ok mounts)
    (texts : ∀ m ∈ c.accepted mounts, m.mountPoint.isText = true) :
    ∃ after records items stuck, start inv s w = .ended after 0 ∧
      Listing c mounts records items ∧
      after.output.bytes = w.output.bytes ++
        Text.utf8 ((scrapeObject settings c items stuck).sorted.toLine ++ "\n").toList := by
  obtain ⟨before, records, first⟩ := firstScrape (c := c) fresh found
  have record_texts : ∀ r ∈ records, r.mountPoint.isText = true := by
    intro r member
    obtain ⟨l, accepted, same⟩ := first.place member
    rw [← same]
    exact texts l accepted
  have stuck_texts : ∀ e ∈ before.timetable.traffic.race.registry.entries,
      e.path.isText = true := by
    intro e member
    obtain ⟨l, accepted, same⟩ := first.stuck e member
    rw [← same]
    exact texts l accepted
  obtain ⟨items, stuck, written, printed⟩ :=
    scrapeJson_of_texts settings c record_texts stuck_texts
  rw [start, task]
  dsimp only
  rw [runScrape_of_scraped asked configured usable first.scraped, printed]
  refine ⟨_, inOrder records, items, stuck, rfl, ⟨?_, sorted_inOrder records, written⟩, ?_⟩
  · exact ((List.mergeSort_perm records _).map _).trans first.rows
  · rw [← first.output]
    rfl

theorem start_of_no_text {byTable : Bool} (task : inv.task = .scrape byTable)
    (asked : inv.json = true) (fresh : w.timetable = .empty)
    (configured : settingsOf inv s w = .ok settings) (usable : collectorOf settings = .ok c)
    (found : ((s.host settings).table w.tree).mounts = .ok mounts)
    (no_text : ∃ m ∈ c.accepted mounts, m.mountPoint.isText = false) :
    ∃ after, start inv s w = .ended after 3 ∧ after.output = w.output ∧
      after.scene.errors = w.scene.errors ++ ((s.host settings).table w.tree).warnings ++
        "mountguard: failed to serialize output: path contains invalid UTF-8 characters\n" := by
  obtain ⟨before, records, first⟩ := firstScrape (c := c) fresh found
  obtain ⟨m, accepted, none⟩ := no_text
  obtain ⟨r, member, same⟩ := first.record accepted
  rw [start, task]
  dsimp only
  rw [runScrape_of_scraped asked configured usable first.scraped,
    scrapeJson_of_no_text ⟨r, member, by rw [same]; exact none⟩]
  refine ⟨_, rfl, first.output, ?_⟩
  rw [← first.errors]
  rfl

/-- Asked for structured output, a scrape of a table that can be read prints one line with an item
for each accepted row if their mount points are texts. If one is not, it prints nothing and says
why. -/
theorem scrape_prints_one_line {byTable : Bool} (task : inv.task = .scrape byTable)
    (asked : inv.json = true) (fresh : w.timetable = .empty)
    (configured : settingsOf inv s w = .ok settings) (usable : collectorOf settings = .ok c)
    (found : ((s.host settings).table w.tree).mounts = .ok mounts) :
    ((∀ m ∈ c.accepted mounts, m.mountPoint.isText = true) →
      ∃ after records items stuck, start inv s w = .ended after 0 ∧
        Listing c mounts records items ∧
        after.output.bytes = w.output.bytes ++
          Text.utf8 ((scrapeObject settings c items stuck).sorted.toLine ++ "\n").toList ∧
        '\n' ∉ (scrapeObject settings c items stuck).sorted.toLine.toList) ∧
    ((∃ m ∈ c.accepted mounts, m.mountPoint.isText = false) →
      ∃ after, start inv s w = .ended after 3 ∧ after.output = w.output ∧
        after.scene.errors = w.scene.errors ++ ((s.host settings).table w.tree).warnings ++
          "mountguard: failed to serialize output: path contains invalid UTF-8 characters\n") := by
  refine ⟨fun texts => ?_, start_of_no_text task asked fresh configured usable found⟩
  obtain ⟨after, records, items, stuck, ended, listing, printed⟩ :=
    start_of_texts task asked fresh configured usable found texts
  exact ⟨after, records, items, stuck, ended, listing, printed, Json.newline_not_mem_toLine _⟩

/-- Files with a mount table, and nothing else. -/
def treeWithTable (table : Bytes) : FileTree where
  nodes := #[.dir 0 [([112, 114, 111, 99], 1)] false, .dir 0 [([49], 2)] false,
    .dir 1 [([109, 111, 117, 110, 116, 105, 110, 102, 111], 3)] false, .file table]
  current := 0

theorem lookup_treeWithTable (table : Bytes) :
    (treeWithTable table).lookup PathSettings.usual.configFile = none := by
  cbv

theorem read_treeWithTable (table : Bytes) : (treeWithTable table).read
    ⟨[47, 112, 114, 111, 99, 47, 49, 47, 109, 111, 117, 110, 116, 105, 110, 102, 111]⟩ =
      .ok table := by
  cbv

/-- Patterns are set that leave out no mount of the tables below. -/
def plainSetting : Setting where
  terminal := ⟨false, false⟩
  env := fun name =>
    if name ∈ ["MOUNTGUARD_MOUNT_POINTS_EXCLUDE", "MOUNTGUARD_FS_TYPES_EXCLUDE"] then
      some (Text.utf8 ['z'])
    else none
  system := fun _ => .ok ⟨512, 8, 4, 4, 9, 3⟩
  hangs := fun _ => false
  completions := fun _ => ""
  epochMs := 0

def plainSettings : Settings :=
  { Settings.usual with
    collector := {
      CollectorSettings.usual with mountPointsExclude := "z", fsTypesExclude := "z" } }

def scrapeForProgram : Invocation :=
  ⟨none, true, false, false, false, .scrape false⟩

theorem plainSettings_of_tree (table : Bytes) :
    settingsOf scrapeForProgram plainSetting (.ofTree (treeWithTable table)) =
      .ok plainSettings := by
  have usual : Settings.load none (fun _ => none) plainSetting.env = .ok plainSettings :=
    ok_of_toOption (by decide +kernel)
  have same : Settings.load none (treeWithTable table).lookup plainSetting.env =
      Settings.load none (fun _ => none) plainSetting.env := by
    simp only [Settings.load, Option.getD_none, lookup_treeWithTable]
  have loaded : Settings.load scrapeForProgram.config
      (World.ofTree (treeWithTable table)).tree.lookup plainSetting.env = .ok plainSettings :=
    same.trans usual
  rw [settingsOf, loaded]

def plainSource : Mount.Source :=
  ⟨plainSettings.paths.procPath, ⟨plainSettings.paths.rootfsPath⟩⟩

theorem plainTable (table : Bytes) (mounts : List Mount.Label)
    (read : (plainSource.mounts fun _ => .ok table).mounts.toOption = some mounts) :
    ((plainSetting.host plainSettings).table (treeWithTable table)).mounts = .ok mounts := by
  have named : plainSource.primary =
      ⟨[47, 112, 114, 111, 99, 47, 49, 47, 109, 111, 117, 110, 116, 105, 110, 102, 111]⟩ := by
    decide +kernel
  have contents : (treeWithTable table).read plainSource.primary = .ok table := by
    rw [named]
    exact read_treeWithTable table
  have same : (plainSetting.host plainSettings).table (treeWithTable table) =
      plainSource.mounts fun _ => .ok table := Mount.Source.mounts_of_read contents
  rw [same]
  exact ok_of_toOption read

theorem plainCollector (mounts accepted : List Mount.Label)
    (chosen : (collectorOf plainSettings).toOption.map (·.accepted mounts) = some accepted) :
    ∃ c, collectorOf plainSettings = .ok c ∧ c.accepted mounts = accepted := by
  obtain ⟨c, usable, same⟩ := Option.map_eq_some_iff.mp chosen
  exact ⟨c, ok_of_toOption usable, same⟩

def textRows : List Mount.Label :=
  [{ device := "/dev/sdb", mountPoint := ⟨[47, 111, 107]⟩, fsType := "ext4",
      mountOptions := "rw", superOptions := "ro", major := "8", minor := "17" },
    { device := "/dev/sda1", mountPoint := ⟨[47, 97, 32, 98]⟩, fsType := "ext4",
      mountOptions := "rw", superOptions := "rw", major := "8", minor := "1" }]

def textTable : Bytes :=
  Text.utf8 ("22 1 8:17 / /ok rw - ext4 /dev/sdb ro\n" ++
    "23 1 8:1 / /a\\040b rw - ext4 /dev/sda1 rw\n").toList

theorem scrape_prints_one_line_of_two :
    ∃ (c : Collector) (after : World) (records : List Stat.Record) (items stuck : List Json),
      collectorOf plainSettings = .ok c ∧ c.accepted textRows = textRows ∧
      start scrapeForProgram plainSetting (.ofTree (treeWithTable textTable)) = .ended after 0 ∧
      Listing c textRows records items ∧ after.output.bytes =
        Text.utf8 ((scrapeObject plainSettings c items stuck).sorted.toLine ++ "\n").toList := by
  have found := plainTable textTable textRows (by decide +kernel)
  obtain ⟨c, usable, accepted⟩ := plainCollector textRows textRows (by decide +kernel)
  have texts : ∀ m ∈ c.accepted textRows, m.mountPoint.isText = true := by
    rw [accepted]
    decide +kernel
  have asked : scrapeForProgram.task = .scrape false := rfl
  obtain ⟨after, records, items, stuck, ended, listing, printed, -⟩ :=
    (scrape_prints_one_line asked rfl rfl (plainSettings_of_tree _) usable
      found).1 texts
  have nothing : (World.ofTree (treeWithTable textTable)).output.bytes = [] := rfl
  rw [nothing, List.nil_append] at printed
  exact ⟨c, after, records, items, stuck, usable, accepted, ended, listing, printed⟩

def rowsWithByte : List Mount.Label :=
  [{ device := "/dev/sda1", mountPoint := ⟨[47, 98, 255]⟩, fsType := "ext4",
      mountOptions := "rw", superOptions := "rw", major := "8", minor := "9" },
    { device := "/dev/sda1", mountPoint := ⟨[47, 111, 107]⟩, fsType := "ext4",
      mountOptions := "rw", superOptions := "rw", major := "8", minor := "1" }]

def tableWithByte : Bytes :=
  Text.utf8 ("22 1 8:9 / /b\\377 rw shared:1 - ext4 /dev/sda1 rw\n" ++
    "22 1 8:1 / /ok rw shared:1 - ext4 /dev/sda1 rw").toList

/-- A scrape need not print anything for a table that can be read. -/
theorem one_mount_fails_a_scrape :
    ¬ ∀ (inv : Invocation) (s : Setting) (w : World) (settings : Settings) (c : Collector)
      (mounts : List Mount.Label), inv.task = .scrape false → inv.json = true →
      w.timetable = .empty → settingsOf inv s w = .ok settings →
      collectorOf settings = .ok c → ((s.host settings).table w.tree).mounts = .ok mounts →
      ∃ after, start inv s w = .ended after 0 ∧ after.output.bytes ≠ w.output.bytes := by
  intro claim
  have found := plainTable tableWithByte rowsWithByte (by decide +kernel)
  obtain ⟨c, usable, accepted⟩ := plainCollector rowsWithByte rowsWithByte (by decide +kernel)
  have configured := plainSettings_of_tree tableWithByte
  have no_text : ∃ m ∈ c.accepted rowsWithByte, m.mountPoint.isText = false := by
    rw [accepted]
    exact ⟨_, List.mem_cons_self, by decide +kernel⟩
  have asked : scrapeForProgram.task = .scrape false := rfl
  obtain ⟨after, fails, _, _⟩ := start_of_no_text asked rfl rfl configured usable
    found no_text
  obtain ⟨after', ended, _⟩ := claim scrapeForProgram plainSetting
    (.ofTree (treeWithTable tableWithByte)) plainSettings c rowsWithByte rfl rfl rfl configured
    usable found
  rw [fails] at ended
  cases ended

end Command

end MountProbe
