import MountProbe.Proofs.FileTree.Spared
import MountProbe.Proofs.Journal.Apart
import MountProbe.Proofs.Watch.Ending

/-! What a watch publishes in all. Without a file its output gets the texts of the scrapes that
succeeded, in order and nothing else. With one the file holds the text that was the last to be
written, as long as no name of the log gets to it. -/
namespace MountProbe.Watch

open FileTree (Kept)
open Journal (Config Touches Leaves)
open Textfile (Aims)

/-- The text that was the last to go to the file. -/
def lastFiled? (ms : List Mark) : Option String :=
  ((rounds ms).filterMap Round.filed?).getLast?

/-- The file at an entry holds the text that was the last to go there, or else what it held at
first. -/
def Shows (d : NodeId) (n : Bytes) (t : FileTree) (ms : List Mark) (u : FileTree) : Prop :=
  match lastFiled? ms with
  | some text => u.held d n = some (Text.utf8 text.toList)
  | none => Kept d n t u

/-- Nobody else changes the file, and no name of the log is the file's or leads to it. Each scrape
that publishes finds it in one place, and no link beside it. -/
structure Untouched (p : Path) (d : NodeId) (n : Bytes) (ms : List Mark) : Prop where
  others : ∀ t u, .other t u ∈ ms → Kept d n t u
  log : ∀ c h, .logged c h ∈ ms → Leaves c d n h
  aims : ∀ r t, .round r t ∈ ms → r ≠ .failed → Aims p d n t

/-- The log is opened before the first step. -/
def opening (given : Settings) (world : World) : List Mark :=
  if given.logging.jsonlEnabled then [.logged (.ofSettings given) ⟨world.tree, none⟩] else []

/-- The output has taken whole texts and then, if the watch is over, at most one part of another. -/
structure Whole (rs : List Round) (v : Watch) : Prop where
  going : v.isOver = false → rs.filterMap Round.part? = []
  once : (rs.filterMap Round.part?).length ≤ 1
  sent : rs.flatMap Round.sent =
    (rs.filterMap Round.printed?).flatMap (fun text => Text.utf8 text.toList) ++
      (rs.filterMap Round.part?).flatten

section

variable {w u v : Watch} {host : Host} {env : Settings.Environment} {text : String} {r : Round}
  {target : Option Path} {ms ms' : List Mark} {rs rs' : List Round} {p : Path} {d : NodeId}
  {n : Bytes} {t t' : FileTree} {most epochMs : Nat} {world after : World} {given : Settings}
  {chosen : Options}

theorem lastFiled?_append (ms ms' : List Mark) :
    lastFiled? (ms ++ ms') = (lastFiled? ms').or (lastFiled? ms) := by
  rw [lastFiled?, lastFiled?, lastFiled?, rounds_append, List.filterMap_append,
    List.getLast?_append]

theorem Shows.trans {t'' : FileTree} (first : Shows d n t ms t') (last : Shows d n t' ms' t'') :
    Shows d n t (ms ++ ms') t'' := by
  rw [Shows] at first last ⊢
  rw [lastFiled?_append]
  cases later : lastFiled? ms' with
  | some text => simpa only [later, Option.some_or] using last
  | none =>
    simp only [later] at last
    rw [Option.none_or]
    cases earlier : lastFiled? ms with
    | some text =>
      simp only [earlier] at first ⊢
      exact last.held _ first
    | none =>
      simp only [earlier] at first ⊢
      exact first.trans last

theorem shows_of_kept (no_round : rounds ms = []) (kept : Kept d n t t') : Shows d n t ms t' := by
  rw [Shows, lastFiled?, no_round]
  exact kept

theorem Untouched.of_append (h : Untouched p d n (ms ++ ms')) :
    Untouched p d n ms ∧ Untouched p d n ms' :=
  ⟨⟨fun t u member => h.others t u (List.mem_append_left _ member),
      fun c h' member => h.log c h' (List.mem_append_left _ member),
      fun r t member => h.aims r t (List.mem_append_left _ member)⟩,
    ⟨fun t u member => h.others t u (List.mem_append_right _ member),
      fun c h' member => h.log c h' (List.mem_append_right _ member),
      fun r t member => h.aims r t (List.mem_append_right _ member)⟩⟩

theorem Jots.kept (jots : Jots w v) (untouched : Untouched p d n w.logMarks) :
    Kept d n w.world.tree v.world.tree := by
  cases jots with
  | still _ _ same =>
    rw [same]
    exact .refl _
  | @touches l logger _ touched =>
    have leaves := untouched.log l.writer.config w.hold (by simp [logMarks, logger])
    exact leaves.kept touched

theorem Jots.shows (jots : Jots w v) (untouched : Untouched p d n w.logMarks) :
    Shows d n w.world.tree w.logMarks v.world.tree :=
  shows_of_kept (rounds_logMarks w) (jots.kept untouched)

theorem Publishes.shows (published : Publishes w text r v) (file : w.outputFile? = some p)
    (aims : Aims p d n w.world.tree) :
    Shows d n w.world.tree [.round r w.world.tree] (w.published text) := by
  have tree : w.published text = (w.written text p).1 := by rw [Watch.published, file]
  rw [tree]
  cases published with
  | printed _ no_file _ | refused _ _ _ no_file _ =>
    rw [file] at no_file
    cases no_file
  | filed other done =>
    cases file.symm.trans other
    exact Textfile.write_held aims done
  | unfiled other failed =>
    cases file.symm.trans other
    exact Textfile.write_kept aims failed

theorem Publishes.ne_failed (published : Publishes w text r v) : r ≠ .failed := by
  cases published <;> exact Round.noConfusion

theorem step_shows (host : Host) (env : Settings.Environment)
    (fixed : w.phase = .scrape → w.outputFile? = some p)
    (untouched : Untouched p d n (w.marks host)) :
    Shows d n w.world.tree (w.marks host) (w.step host env).world.tree := by
  by_cases place : w.phase = .scrape
  · cases said : w.exposition? host with
    | none =>
      rw [marks_of_none place said, ← List.singleton_append] at untouched ⊢
      have nothing : Shows d n w.world.tree [.round .failed w.world.tree] w.world.tree :=
        Kept.refl _
      exact nothing.trans ((jots_of_failed env place said).shows untouched.of_append.2)
    | some text =>
      have steps : w.step host env = (w.scraped host).publish text := by
        rw [Watch.step, place]
        exact scrapeOnce_of_some said
      have publishes := publish_cases (w.scraped host) text
      have file := (noted_scraped host w).2.2.trans (fixed place)
      rw [marks_of_some place said, ← List.singleton_append] at untouched ⊢
      obtain ⟨before, rest⟩ := untouched.of_append
      obtain ⟨round, told⟩ := rest.of_append
      have shows_before := (jots_scraped host w).shows before
      have shows_round := publishes.shows file
        (round.aims _ _ (List.mem_singleton_self _) publishes.ne_failed)
      refine shows_before.trans (shows_round.trans ?_)
      rw [steps]
      rcases publishes.jots with ⟨⟨f, failed⟩, jots⟩ | ⟨none_told, same⟩
      · rw [failed] at told ⊢
        exact jots.shows told
      · rw [none_told, same]
        exact Kept.refl _
  · rcases marks_of_elsewhere host env place with ⟨marks, jots⟩ | ⟨marks, same⟩
    · rw [marks] at untouched ⊢
      exact jots.shows untouched
    · rw [marks, same]
      exact Kept.refl _

theorem Rounds.shows (run : Rounds (some p) w ms v) (untouched : Untouched p d n ms) :
    Shows d n w.world.tree ms v.world.tree := by
  induction run with
  | refl => exact Kept.refl _
  | step host env _ fixed ih =>
    obtain ⟨earlier, last⟩ := untouched.of_append
    exact (ih earlier).trans (step_shows host env fixed last)
  | raise r _ ih => exact ih untouched
  | change tree output freed _ _ ih =>
    obtain ⟨earlier, last⟩ := untouched.of_append
    exact (ih earlier).trans
      (shows_of_kept rfl (last.others _ _ (List.mem_singleton_self _)))

theorem Publishes.filed?_of_slash (published : Publishes w text r v)
    (file : w.outputFile? = some p) (slash : p.raw.getLast? = some Path.slash)
    (sound : w.world.tree.Sound) : r.filed? = none := by
  cases published with
  | filed other done =>
    cases file.symm.trans other
    exact absurd slash (Textfile.no_slash_of_write sound done)
  | printed | refused | unfiled => rfl

/-- Nothing is filed under a name that ends in a slash. -/
theorem Rounds.lastFiled?_of_slash (run : Rounds (some p) w ms v)
    (slash : p.raw.getLast? = some Path.slash) (sound : ∀ r t, .round r t ∈ ms → t.Sound) :
    lastFiled? ms = none := by
  induction run with
  | refl => rfl
  | @step u ms host env _ fixed ih =>
    rw [lastFiled?_append, ih fun r t member => sound r t (List.mem_append_left _ member),
      Option.or_none, lastFiled?]
    by_cases place : u.phase = .scrape
    · rw [rounds_of_scrape place]
      cases said : u.exposition? host with
      | none =>
        rw [outcome, said]
        rfl
      | some text =>
        have file := (noted_scraped host u).2.2.trans (fixed place)
        have member : .round ((u.scraped host).ending text) (u.scraped host).world.tree ∈
            u.marks host := by
          rw [marks_of_some place said]
          simp
        have unfiled := (publish_cases (u.scraped host) text).filed?_of_slash file slash
          (sound _ _ (List.mem_append_right _ member))
        rw [outcome, said]
        simp [unfiled]
    · rw [rounds_of_elsewhere host place]
      rfl
  | raise r _ ih => exact ih sound
  | change tree output freed _ _ ih =>
    rw [lastFiled?_append, ih fun r t member => sound r t (List.mem_append_left _ member)]
    rfl

theorem Whole.of_none (whole : Whole rs u) (before : v.isOver = false → u.isOver = false) :
    Whole (rs ++ []) v := by
  rw [List.append_nil]
  exact ⟨fun on => whole.going (before on), whole.once, whole.sent⟩

/-- A text that breaks the output comes after whole ones, and ends the watch. -/
theorem Whole.step (whole : Whole rs w) (host : Host) (env : Settings.Environment) :
    Whole (rs ++ rounds (w.marks host)) (w.step host env) := by
  by_cases place : w.phase = .scrape
  · have next := phase_of_scrape host env place
    have no_part := whole.going (by rw [isOver, place])
    have sent := whole.sent
    rw [no_part] at sent
    rw [rounds_of_scrape place]
    generalize w.outcome host = r at next
    refine ⟨fun on => ?_, ?_, ?_⟩
    · rw [List.filterMap_append, no_part]
      cases r with
      | refused text taken fault =>
        rw [isOver, next] at on
        cases on
      | failed | printed | filed | unfiled => rfl
    · rw [List.filterMap_append, no_part, List.nil_append]
      exact List.length_filterMap_le Round.part? [r]
    · rw [List.flatMap_append, sent, List.filterMap_append, List.filterMap_append, no_part]
      cases r <;> simp [Round.sent, Round.printed?, Round.part?]
  · rw [rounds_of_elsewhere host place]
    refine whole.of_none fun on => ?_
    by_contra ended
    rw [(step_turn host env w).remains (by simpa using ended)] at on
    cases on

theorem Rounds.whole (run : Rounds target w ms v) : Whole (rounds ms) v := by
  induction run with
  | refl => exact ⟨fun _ => rfl, Nat.zero_le 1, rfl⟩
  | step host env _ _ ih =>
    rw [rounds_append]
    exact ih.step host env
  | raise r _ ih => exact ⟨ih.going, ih.once, ih.sent⟩
  | change tree output freed _ _ ih =>
    rw [rounds_append]
    exact ih.of_none id

theorem opens_of_init (made : init world epochMs given chosen = (after, .ok w)) :
    w.world.output = world.output ∧ w.scrapes = 0 ∧
      (w.logger = none ∧ w.world.tree = world.tree ∨
        opening given world = [.logged (.ofSettings given) ⟨world.tree, none⟩] ∧
          ∃ l, w.logger = some l ∧ l.writer.config = .ofSettings given ∧
            Touches (.ofSettings given) ⟨world.tree, none⟩ w.hold) := by
  unfold init at made
  split at made
  rename_i begun logger opened
  split at made
  · cases made
  · rename_i c built
    cases made
    split at opened
    · rename_i enabled
      cases opened
      have opens : opening given world = [.logged (.ofSettings given) ⟨world.tree, none⟩] := by
        rw [opening, if_pos enabled]
      exact ⟨rfl, rfl, .inr ⟨opens, _, rfl, Journal.Writer.start_works _ _ _ _⟩⟩
    · cases opened
      exact ⟨rfl, rfl, .inl ⟨rfl, rfl⟩⟩

theorem kept_of_begin (made : init world epochMs given chosen = (after, .ok w))
    (untouched : Untouched p d n (opening given world)) :
    Kept d n world.tree w.begin.world.tree := by
  have jots : Jots w w.begin := jots_log w _
  rcases (opens_of_init made).2.2 with ⟨unlogged, same⟩ | ⟨opens, l, logger, config, touched⟩
  · cases jots with
    | still _ _ same' =>
      rw [same', same]
      exact .refl _
    | touches other _ _ =>
      rw [unlogged] at other
      cases other
  · cases jots with
    | still none _ _ =>
      rw [logger] at none
      cases none
    | touches other _ touches =>
      cases logger.symm.trans other
      rw [config] at touches
      rw [opens] at untouched
      exact (untouched.log _ _ (List.mem_singleton_self _)).kept (touched.trans touches)

theorem begin_of_init (made : init world epochMs given chosen = (after, .ok w)) :
    w.begin.phase = .check ∧ w.begin.signals = .quiet ∧ w.begin.scrapes = 0 ∧
      w.begin.options = chosen ∧ w.begin.world.output = world.output := by
  have begins := made_of_init made
  obtain ⟨output, fresh, -⟩ := opens_of_init made
  have noted := noted_log w (.collectorStarted version (fingerprint w.settings))
  have same_output : w.begin.world.output = world.output := noted.output.trans output
  obtain ⟨_, _, _, _, _, same⟩ := noted
  refine ⟨?_, ?_, ?_, ?_, same_output⟩ <;> rw [begin, same]
  · exact begins.phase
  · exact begins.signals
  · exact fresh
  · exact begins.options

/-- What a watch has published at some time since it was made, and what comes of it. -/
structure Published (target : Option Path) (most : Nat) (world : World) (ms : List Mark)
    (v : Watch) : Prop where
  /-- Without a file the output gets the texts of the scrapes that succeeded, and of a text at which
  it fails what it takes. -/
  printed : target = none → v.world.output.bytes = world.output.bytes ++
    ((rounds ms).filterMap Round.printed?).flatMap (fun text => Text.utf8 text.toList) ++
      ((rounds ms).filterMap Round.part?).flatten
  once : ((rounds ms).filterMap Round.part?).length ≤ 1
  silent : target ≠ none → v.world.output.bytes = world.output.bytes
  filed : ∀ p d n, target = some p → Untouched p d n ms → Shows d n world.tree ms v.world.tree
  /-- A path that ends in a slash names no file, and nothing is filed there. -/
  slashed : ∀ p, target = some p → p.raw.getLast? = some Path.slash →
    (∀ r t, .round r t ∈ ms → t.Sound) →
      lastFiled? ms = none ∧ ∀ c, v.world.tree.lookup p ≠ some (.ok c)
  counted : v.scrapes + (if v.phase.isCount then 1 else 0) = (rounds ms).countP Round.counts
  goes_on : v.phase = .scrape → ∀ host env,
    rounds (v.marks host) = [v.outcome host] ∧ (v.step host env).phase = (v.outcome host).next
  result : ∀ result, v.result? = some result →
    ∃ r, result = r.map (fun () => (rounds ms).countP Round.counts) ∧ Cause most (rounds ms) v r
  /-- However it goes on, it comes to its end. -/
  ends : ∀ f : Nat → Watch, f 0 = v →
    (∀ k, ∃ es, Run (f k) es (f (k + 1)) ∧ 1 ≤ ownSteps es) → ∃ k r, (f k).result? = some r

theorem published_of_rounds (made : init world epochMs given chosen = (after, .ok w))
    (limit : chosen.maxScrapes = some most) (some_scrape : 1 ≤ most)
    (run : Rounds target w.begin ms v) :
    Published target most world (opening given world ++ ms) v := by
  obtain ⟨place, -, scrapes, options, output⟩ := begin_of_init made
  have same_rounds : rounds (opening given world ++ ms) = rounds ms := by
    rw [rounds_append, opening]
    split <;> rfl
  have steps := run.steps
  have whole := run.whole
  have going : w.begin.isOver = false := by rw [isOver, place]
  have bounds := Rounds.bounds (.of_going (by rw [options, limit]) going (by omega)) run
  have counted : v.scrapes + (if v.phase.isCount then 1 else 0) =
      (rounds ms).countP Round.counts := by
    have count := steps.count
    rw [place, scrapes] at count
    simpa [Phase.isCount] using count
  have bytes := steps.bytes
  rw [output] at bytes
  refine ⟨fun _ => ?_, ?_, fun file => ?_, fun p d n file untouched => ?_,
    fun p file slash sound => ⟨?_, FileTree.lookup_of_slash slash⟩, ?_,
    fun place host env => ⟨rounds_of_scrape place, phase_of_scrape host env place⟩,
    fun result ended => ?_, fun f start goes => ends_of_limit f (start ▸ bounds.limit) goes⟩
  · rw [same_rounds, bytes, whole.sent, List.append_assoc]
  · rw [same_rounds]
    exact whole.once
  · rw [bytes, steps.file file, List.append_nil]
  · subst file
    obtain ⟨opened, rest⟩ := untouched.of_append
    have first : Shows d n world.tree (opening given world) w.begin.world.tree := by
      refine shows_of_kept ?_ (kept_of_begin made opened)
      rw [opening]
      split <;> rfl
    exact first.trans (run.shows rest)
  · subst file
    rw [lastFiled?, same_rounds]
    exact run.lastFiled?_of_slash slash fun r t member =>
      sound r t (List.mem_append_right _ member)
  · rw [same_rounds]
    exact counted
  · rw [same_rounds]
    unfold result? at ended
    split at ended
    · rename_i last place
      cases ended
      obtain ⟨r, same, cause⟩ := bounds.stopped _ place
      rw [place] at counted
      refine ⟨r, ?_, cause⟩
      rw [same, ← counted]
      rfl
    · cases ended

def ownMarks (host : Host) (env : Settings.Environment) (w : Watch) : Nat → List Mark
  | 0 => []
  | k + 1 => ownMarks host env w k ++ ((Watch.step host env)^[k] w).marks host

theorem rounds_own (host : Host) (env : Settings.Environment) (out : w.options.output = some p)
    (k : Nat) : Rounds (some p) w (ownMarks host env w k) ((Watch.step host env)^[k] w) ∧
      ((Watch.step host env)^[k] w).options = w.options := by
  induction k with
  | zero => exact ⟨.refl w, rfl⟩
  | succ k ih =>
    obtain ⟨run, options⟩ := ih
    rw [Function.iterate_succ_apply', ownMarks, step_options]
    refine ⟨run.step host env fun _ => ?_, options⟩
    rw [outputFile?, options, out]

/-- A watch that has no request to end comes to a scrape in three steps. -/
theorem comes_to_scrape (host : Host) (env : Settings.Environment) (place : w.phase = .check)
    (going : w.signals.shutdown = false) :
    ((Watch.step host env)^[3] w).phase = .scrape ∧
      ownMarks host env w 3 = (w.step host env).logMarks := by
  have reloads : (w.step host env).phase = .reload := by
    rw [Watch.step, place]
    simp [going]
  have takes : ∀ u : Watch, u.phase = .reload → (u.step host env).phase = .request := by
    intro u here
    rw [Watch.step, here]
    dsimp only
    split <;> rfl
  have scrapes : ∀ u : Watch, u.phase = .request → (u.step host env).phase = .scrape := by
    intro u here
    rw [Watch.step, here]
  have requests := takes _ reloads
  refine ⟨scrapes _ requests, ?_⟩
  change [] ++ w.marks host ++ (w.step host env).marks host ++
    ((w.step host env).step host env).marks host = _
  have marks_check : w.marks host = [] := by rw [Watch.marks, place]
  have marks_request : ((w.step host env).step host env).marks host = [] := by
    rw [Watch.marks, requests]
  have marks_reload : (w.step host env).marks host = (w.step host env).logMarks := by
    rw [Watch.marks, reloads]
  rw [marks_check, marks_request, marks_reload, List.append_nil]
  rfl

end

def brokenHost : Host :=
  ⟨fun _ => ⟨[], .ok [{ device := "d", mountPoint := ⟨[47]⟩, fsType := "ext4" }]⟩,
    fun _ => ⟨.broken "gone", some 1⟩⟩

/-- Beside a directory for the second log stands the file "l", which has one line. -/
def logPlace : FileTree :=
  ⟨#[.dir 0 [([108], 1), ([100, 101, 118], 2)] false, .file [111, 10],
    .dir 0 [([115, 104, 109], 3)] false, .dir 2 [] false], 0⟩

/-- Settings that put the log in the file "l", which is removed when it is full. -/
def loggedSettings : Settings :=
  { Settings.usual with
    collector := { CollectorSettings.usual with mountPointsExclude := "", fsTypesExclude := "" }
    paths := { PathSettings.usual with jsonlLog := ⟨[108]⟩ }
    logging := { LoggingSettings.usual with maxRotatedFiles := 0 } }

/-- The watch that these settings make, which is to make one scrape for a file. -/
def loggedWatch (name : Bytes) : Watch where
  settings := loggedSettings
  options := ⟨some 60000, some ⟨name⟩, some 1⟩
  collector := ⟨⟨⟨none, none⟩, ⟨none, none⟩⟩, 4, ⟨5000, true⟩⟩
  signals := .quiet
  logger := some ⟨.empty 1024 false, .ofSettings loggedSettings, some ⟨1, [], 0⟩, .normal, 2, 0, []⟩
  told := 0
  scrapes := 0
  phase := .check
  world := .ofTree logPlace
  epochMs := 0

theorem shelf_logPlace : Journal.Shelf logPlace ⟨[108]⟩ 0 0 [108] := by
  refine Journal.shelf_of_plain (t := logPlace) (fun i low => ?_) ⟨_, _, rfl⟩ fun i low x here => ?_
  · rw [Nat.le_zero.mp low]
    decide
  · rw [Nat.le_zero.mp low] at here
    cases here
    exact ⟨_, rfl⟩

theorem shelf_second : Journal.Shelf logPlace (Path.ofString "/dev/shm/mountguard.jsonl") 0 3
    (Text.utf8 "mountguard.jsonl".toList) := by
  have above : (Path.ofString "/dev/shm/mountguard.jsonl").parent? =
      some (Path.ofString "/dev/shm") := by decide +kernel
  refine ⟨fun p up => ?_, by decide, fun i low => ?_, ⟨_, _, rfl⟩, fun i low x here => ?_⟩
  · cases above.symm.trans up
    right
    cbv
  · rw [Nat.le_zero.mp low]
    cbv
  · rw [Nat.le_zero.mp low] at here
    cases here

theorem init_loggedWatch (name : Bytes) :
    init (.ofTree logPlace) 0 loggedSettings (loggedWatch name).options =
      (.ofTree logPlace, .ok (loggedWatch name)) := by
  have opened : Journal.openAppend ⟨logPlace, ""⟩ ⟨[108]⟩ = (⟨logPlace, ""⟩, some (1, 2)) :=
    Journal.openAppend_of_entry (s := ⟨logPlace, ""⟩) (c := [111, 10]) shelf_logPlace rfl rfl
  have begun : Journal.Logger.start (World.ofTree logPlace).scene (.ofSettings loggedSettings) 0 =
      (⟨logPlace, ""⟩, (loggedWatch name).logger.get rfl) := by
    have path : (Journal.LoggerConfig.ofSettings loggedSettings).journal.path = ⟨[108]⟩ := rfl
    rw [Journal.Logger.start, Journal.Writer.start, path]
    simp only [show Journal.openAppend (World.ofTree logPlace).scene _ = _ from opened]
    rfl
  have logs : loggedSettings.logging.jsonlEnabled = true := rfl
  have built : Collector.ofSettings loggedSettings.collector true =
      .ok (loggedWatch name).collector := rfl
  simp only [init, logs, if_true, begun, Option.isSome_some, built]
  rfl

theorem leaves_logPlace (file : Option NodeId) :
    Leaves (.ofSettings loggedSettings) 0 [111] ⟨logPlace, file⟩ := by
  have bases : ∀ base ∈ (Config.ofSettings loggedSettings).bases,
      base = ⟨[108]⟩ ∨ base = Path.ofString "/dev/shm/mountguard.jsonl" := by
    intro base own
    have member : base ∈ [⟨[108]⟩, Path.ofString "/dev/shm/mountguard.jsonl"] := own
    simpa using member
  refine Journal.Apart.leaves ⟨fun base own => ?_, fun base own j low => ?_, fun i entry => ?_⟩
  · rcases bases base own with rfl | rfl
    · exact ⟨_, _, shelf_logPlace⟩
    · exact ⟨_, _, shelf_second⟩
  · rcases bases base own with rfl | rfl
    · rw [shelf_logPlace.spots j low, Nat.le_zero.mp low]
      decide
    · rw [shelf_second.spots j low, Nat.le_zero.mp low]
      decide
  · cases entry

theorem place_logPlace : Textfile.ground logPlace ⟨[111]⟩ = (logPlace, .ok ()) ∧
    Textfile.Place ⟨[111]⟩ 0 [111] logPlace := by
  refine Textfile.place_of_plain (by decide) (by decide) rfl
    (FileTree.sound_of_nodes (by decide)) ?_
  intro i target entry
  cases entry

/-- The log has been opened, and what it was told still waits. -/
def Idle (w : Watch) : Prop :=
  w.world.tree.nodes = logPlace.nodes ∧ w.world.tree.current = logPlace.current ∧
    w.hold.file = some 1 ∧
      w.logger.map (fun l => l.writer.config) = some (Config.ofSettings loggedSettings)

instance (w : Watch) : Decidable w.Idle :=
  inferInstanceAs (Decidable (_ ∧ _))

theorem Idle.tree {w : Watch} (idle : w.Idle) : w.world.tree = logPlace := by
  obtain ⟨nodes, current, -⟩ := idle
  generalize w.world.tree = t at nodes current
  cases t
  cases nodes
  cases current
  rfl

theorem Idle.logMarks {w : Watch} (idle : w.Idle) :
    w.logMarks = [.logged (.ofSettings loggedSettings) ⟨logPlace, some 1⟩] := by
  have here : w.hold = ⟨logPlace, some 1⟩ := by
    rw [← idle.tree, ← idle.2.2.1]
    rfl
  obtain ⟨l, logger, config⟩ := Option.map_eq_some_iff.mp idle.2.2.2
  rw [Watch.logMarks, logger, here, ← config]
  rfl

theorem ownMarks_of_idle {u : Watch} {text : String} (host : Host) (env : Settings.Environment)
    (check : u.phase = .check) (going : u.signals.shutdown = false)
    (out : u.options.output = some ⟨[111]⟩) (idle : ∀ k < 4, ((Watch.step host env)^[k] u).Idle)
    (said : ((Watch.step host env)^[3] u).exposition? host = some text)
    (scraped : (((Watch.step host env)^[3] u).scraped host).Idle) :
    ownMarks host env u 4 = [.logged (.ofSettings loggedSettings) ⟨logPlace, some 1⟩,
      .logged (.ofSettings loggedSettings) ⟨logPlace, some 1⟩, .round (.filed text) logPlace] := by
  obtain ⟨place, before⟩ := comes_to_scrape host env check going
  have options := (rounds_own host env out 3).2
  have late := idle 3 (by decide)
  have early : (u.step host env).logMarks = _ := (idle 1 (by decide)).logMarks
  rw [ownMarks, before, early]
  generalize (Watch.step host env)^[3] u = w at *
  obtain ⟨made, stands⟩ := place_logPlace
  have filed : (w.scraped host).ending text = .filed text := by
    have file : (w.scraped host).outputFile? = some ⟨[111]⟩ := by
      rw [(noted_scraped host w).2.2, outputFile?, options, out]
    have written : ((w.scraped host).written text ⟨[111]⟩).2 = .ok () := by
      rw [written, scraped.tree]
      refine Textfile.write_ok stands made rfl ?_ rfl fun o entry => nomatch entry
      exact FileTree.spotOf_of_plain (by decide) rfl
    simp only [ending, file, written]
  rw [marks_of_some place said, filed, scraped.tree, late.logMarks]
  rfl

theorem untouched_logPlace (text : String) : Untouched ⟨[111]⟩ 0 [111]
    [.logged (.ofSettings loggedSettings) ⟨logPlace, none⟩,
      .logged (.ofSettings loggedSettings) ⟨logPlace, some 1⟩,
      .logged (.ofSettings loggedSettings) ⟨logPlace, some 1⟩, .round (.filed text) logPlace] where
  others t u member := by
    simp at member
  log c h member := by
    simp only [List.mem_cons, Mark.logged.injEq, reduceCtorEq, List.not_mem_nil, or_false] at member
    rcases member with ⟨rfl, rfl⟩ | ⟨rfl, rfl⟩ | ⟨rfl, rfl⟩ <;> exact leaves_logPlace _
  aims r t member := by
    simp only [List.mem_cons, Mark.round.injEq, reduceCtorEq, List.not_mem_nil, or_false,
      false_or] at member
    obtain ⟨made, stands⟩ := place_logPlace
    intro _ _
    rw [member.2, made]
    exact stands

/-- A watch with a log publishes in another file. -/
theorem published_of_one_scrape :
    init (.ofTree logPlace) 0 loggedSettings (loggedWatch [111]).options =
      (.ofTree logPlace, .ok (loggedWatch [111])) ∧
    (loggedWatch [111]).options.maxScrapes = some 1 ∧ 1 ≤ 1 ∧
    ∃ text ms v, Rounds (some ⟨[111]⟩) (loggedWatch [111]).begin ms v ∧
      Untouched ⟨[111]⟩ 0 [111] (opening loggedSettings (.ofTree logPlace) ++ ms) ∧
      lastFiled? ms = some text ∧
      Published (some ⟨[111]⟩) 1 (.ofTree logPlace)
        (opening loggedSettings (.ofTree logPlace) ++ ms) v := by
  let env : Settings.Environment := fun _ => none
  have initial := init_loggedWatch [111]
  obtain ⟨check, quiet, -, options, -⟩ := begin_of_init initial
  have out : (loggedWatch [111]).begin.options.output = some ⟨[111]⟩ := by rw [options]; rfl
  have idle : ∀ k < 4, ((Watch.step brokenHost env)^[k] (loggedWatch [111]).begin).Idle := by
    decide +kernel
  obtain ⟨text, said⟩ : ∃ text, Watch.exposition? brokenHost
      ((Watch.step brokenHost env)^[3] (loggedWatch [111]).begin) = some text := by
    refine Option.isSome_iff_exists.mp ?_
    decide +kernel
  have marks := ownMarks_of_idle brokenHost env check (by rw [quiet]; rfl) out idle said
    (by decide +kernel)
  have run := (rounds_own brokenHost env out 4).1
  rw [marks] at run
  exact ⟨initial, rfl, Nat.le_refl 1, text, _, _, run, untouched_logPlace text, rfl,
    published_of_rounds initial rfl (Nat.le_refl 1) run⟩

def lostHost : Host :=
  ⟨fun _ => ⟨[], .error (.mountParse "gone")⟩, fun _ => ⟨.broken "gone", some 1⟩⟩

theorem log_may_be_the_file : ¬ ∀ (host : Host) (env : Settings.Environment) (world after : World)
    (settings : Settings) (options : Options) (w : Watch) (p : Path) (d : NodeId) (n : Bytes)
    (most k : Nat),
    init world 0 settings options = (after, .ok w) → options.output = some p →
    options.maxScrapes = some most → 1 ≤ most → (∀ t, ∃ f, (host.table t).mounts = .error f) →
    Aims p d n w.world.tree →
    Kept d n w.world.tree ((Watch.step host env)^[k] w.begin).world.tree := by
  intro claim
  obtain ⟨made, stands⟩ : Textfile.ground logPlace ⟨[108]⟩ = (logPlace, .ok ()) ∧
      Textfile.Place ⟨[108]⟩ 0 [108] logPlace := by
    refine Textfile.place_of_plain (by decide) (by decide) rfl
      (FileTree.sound_of_nodes (by decide)) ?_
    intro i target entry
    cases entry
  have kept := claim lostHost (fun _ => none) _ _ _ _ (loggedWatch [108]) ⟨[108]⟩ 0 [108] 1 6
    (init_loggedWatch [108]) rfl rfl (Nat.le_refl 1) (fun _ => ⟨_, rfl⟩) fun _ => made ▸ stands
  have before : logPlace.held 0 [108] = some [111, 10] := FileTree.held_of_entry (i := 1) rfl rfl
  have after := kept.held _ before
  let final := ((Watch.step lostHost fun _ => none)^[6] (loggedWatch [108]).begin).world.tree
  obtain ⟨entry, there, longer⟩ : final.entry? 0 [108] = some 1 ∧
      (final.contents? 1).isSome = true ∧ final.contents? 1 ≠ some [111, 10] := by
    decide +kernel
  obtain ⟨c, holds⟩ := Option.isSome_iff_exists.mp there
  exact longer (holds.trans ((FileTree.held_of_entry entry holds).symm.trans after))

end MountProbe.Watch
