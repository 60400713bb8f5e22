import MountProbe.Proofs.FileTree.Publishing
import MountProbe.Proofs.Watch.Jotting
import MountProbe.Proofs.Watch.Requests

/-! The rounds of a watch. Each scrape comes to one of five ends, and only two of them put its text
out: on the output, or in the file. An output that breaks gets a part of it; the other ends change
neither, and leave the watch going. -/
namespace MountProbe

namespace Output

theorem put_of_sound (o : Output) (bytes : Bytes) (sound : o.fault = none) :
    o.put bytes = ({ o with bytes := o.bytes ++ bytes }, .ok ()) := by
  rw [put, sound]

theorem put_of_broken (o : Output) (bytes : Bytes) {fault : Nat × IoFault}
    (broken : o.fault = some fault) :
    o.put bytes = ({ o with bytes := o.bytes ++ bytes.take fault.1 }, .error fault.2) := by
  rw [put, broken]

end Output

namespace Watch

open FileTree (Kept)
open Journal (Config Hold)
open Textfile (Aims)

/-- What a scrape of a watch came to. -/
inductive Round where
  /-- The mount table could not be read. -/
  | failed
  | printed (text : String)
  /-- The output took so many bytes of the text and then failed. -/
  | refused (text : String) (taken : Nat) (fault : IoFault)
  | filed (text : String)
  | unfiled (f : Failure)

namespace Round

/-- The text that went to the output. -/
def printed? : Round → Option String
  | .printed text => some text
  | _ => none

/-- The part of a text that went to the output before it failed. -/
def part? : Round → Option Bytes
  | .refused text taken _ => some ((Text.utf8 text.toList).take taken)
  | _ => none

def sent : Round → Bytes
  | .printed text => Text.utf8 text.toList
  | .refused text taken _ => (Text.utf8 text.toList).take taken
  | _ => []

/-- The text that went to the file. -/
def filed? : Round → Option String
  | .filed text => some text
  | _ => none

/-- Every scrape counts but one that breaks the watch. -/
def counts : Round → Bool
  | .refused _ _ _ => false
  | _ => true

/-- Where a watch goes from a scrape. -/
def next : Round → Phase
  | .refused _ _ fault => .stopping (.error (outputFailure fault))
  | _ => .count

end Round

/-- What a scrape says, unless it fails. -/
def exposition? (host : Host) (w : Watch) : Option String :=
  match (w.world.scrape host w.collector).2 with
  | .ok records => some (Gauge.ofRecords records).text
  | .error _ => none

/-- The watch when it has logged what a scrape told and is about to publish what it says. -/
def scraped (host : Host) (w : Watch) : Watch :=
  { w with world := (w.world.scrape host w.collector).1 }.tell

/-- The files after a text was published in one of them. -/
def written (w : Watch) (text : String) (p : Path) : FileTree × Except Failure Unit :=
  Textfile.write w.world.tree p (Text.utf8 text.toList)

/-- The files after a text was published. -/
def published (w : Watch) (text : String) : FileTree :=
  match w.outputFile? with
  | some p => (w.written text p).1
  | none => w.world.tree

/-- How the text of a scrape is put out. -/
def ending (w : Watch) (text : String) : Round :=
  match w.outputFile? with
  | some p =>
    match (w.written text p).2 with
    | .ok () => .filed text
    | .error f => .unfiled f
  | none =>
    match w.world.output.fault with
    | none => .printed text
    | some (taken, fault) => .refused text taken fault

/-- What a scrape comes to. -/
def outcome (host : Host) (w : Watch) : Round :=
  match w.exposition? host with
  | none => .failed
  | some text => (w.scraped host).ending text

def withTree (w : Watch) (tree : FileTree) : Watch :=
  { w with world := { w.world with scene := { w.world.scene with tree } } }

def withOutput (w : Watch) (output : Output) : Watch :=
  { w with world := { w.world with output } }

/-- The ways in which a text is published. -/
inductive Publishes (w : Watch) (text : String) : Round → Watch → Prop where
  | printed (output : Output) : w.outputFile? = none →
    output.bytes = w.world.output.bytes ++ Text.utf8 text.toList →
    Publishes w text (.printed text) { w.withOutput output with phase := .count }
  | refused (output : Output) (taken : Nat) (fault : IoFault) : w.outputFile? = none →
    output.bytes = w.world.output.bytes ++ (Text.utf8 text.toList).take taken →
    Publishes w text (.refused text taken fault)
      { w.withOutput output with phase := .stopping (.error (outputFailure fault)) }
  | filed {p : Path} : w.outputFile? = some p → (w.written text p).2 = .ok () →
    Publishes w text (.filed text) { w.withTree (w.written text p).1 with phase := .count }
  | unfiled {p : Path} {f : Failure} : w.outputFile? = some p → (w.written text p).2 = .error f →
    Publishes w text (.unfiled f)
      { (w.withTree (w.written text p).1).fail "" f with phase := .count }

section

variable {w v : Watch} {host : Host} {env : Settings.Environment} {text : String} {r : Round}

theorem publish_cases (w : Watch) (text : String) :
    Publishes w text (w.ending text) (w.publish text) := by
  unfold ending publish
  cases file : w.outputFile? with
  | some p =>
    dsimp only [written]
    cases done : (Textfile.write w.world.tree p (Text.utf8 text.toList)).2 with
    | ok => exact .filed file done
    | error f => exact .unfiled file done
  | none =>
    dsimp only
    cases broken : w.world.output.fault with
    | none =>
      have put := w.world.output.put_of_sound (Text.utf8 text.toList) broken
      rw [put]
      let bytes := w.world.output.bytes ++ Text.utf8 text.toList
      exact .printed { w.world.output with bytes } file rfl
    | some fault =>
      have put := w.world.output.put_of_broken (Text.utf8 text.toList) broken
      rw [put]
      let bytes := w.world.output.bytes ++ (Text.utf8 text.toList).take fault.1
      exact .refused { w.world.output with bytes } fault.1 fault.2 file rfl

theorem scrapeOnce_of_some (said : w.exposition? host = some text) :
    w.scrapeOnce host = (w.scraped host).publish text := by
  unfold exposition? at said
  unfold scrapeOnce scraped
  split at said
  · rename_i records found
    cases said
    split
    · rename_i world f scrape
      rw [scrape] at found
      cases found
    · rename_i world records' scrape
      rw [scrape] at found ⊢
      cases found
      rfl
  · cases said

theorem scrapeOnce_of_none (failed : w.exposition? host = none) :
    ∃ f, w.scrapeOnce host =
      { { w with world := (w.world.scrape host w.collector).1 }.fail "scrape failed: " f with
        phase := .count } := by
  unfold exposition? at failed
  unfold scrapeOnce
  split at failed
  · cases failed
  · rename_i f found
    split
    · rename_i world f' scrape
      rw [scrape]
      exact ⟨f', rfl⟩
    · rename_i world records scrape
      rw [scrape] at found
      cases found

theorem Noted.output (noted : Noted w v) : v.world.output = w.world.output := by
  obtain ⟨_, _, _, _, _, rfl⟩ := noted
  rfl

theorem scrape_world (world : World) (host : Host) (c : Collector) :
    (world.scrape host c).1.output = world.output ∧ (world.scrape host c).1.tree = world.tree := by
  unfold World.scrape World.mounts
  dsimp only
  cases (host.table world.tree).mounts <;> exact ⟨rfl, rfl⟩

theorem output_of_elsewhere (env : Settings.Environment) (elsewhere : w.phase ≠ .scrape) :
    (w.step host env).world.output = w.world.output := by
  generalize stepped : w.step host env = v
  cases stepped ▸ step_does host env w with
  | heeds | goesOn | passes | takes | stops | lies | wakes | stays => rfl
  | reloads _ _ =>
    obtain ⟨settings, collector, noted⟩ :=
      reload_noted env { w with signals := w.signals.withoutReload }
    exact noted.output
  | scrapes place => exact absurd place elsewhere
  | rests _ _ _ => exact (noted_tell _).output
  | finishes _ =>
    obtain ⟨_, _, _, same⟩ := finish_ends w _
    rw [same]

inductive Mark where
  /-- Somebody else had the files. -/
  | other (before after : FileTree)
  /-- From here on the log may have touched files. -/
  | logged (c : Config) (h : Hold)
  | round (r : Round) (before : FileTree)

def logMarks (w : Watch) : List Mark :=
  w.logger.toList.map fun l => .logged l.writer.config w.hold

/-- Of what came of a scrape the log is told only if its text could not be filed. -/
def toldMarks (w : Watch) : Round → List Mark
  | .unfiled _ => w.logMarks
  | _ => []

/-- What a step leaves marks of. In a scrape the log is told of what was seen before its text is
published. -/
def marks (host : Host) (w : Watch) : List Mark :=
  match w.phase with
  | .scrape =>
    match w.exposition? host with
    | none => .round .failed w.world.tree :: w.logMarks
    | some text =>
      let scraped := w.scraped host
      let r := scraped.ending text
      w.logMarks ++ .round r scraped.world.tree ::
        (scraped.withTree (scraped.published text)).toldMarks r
  | .reload | .rest _ | .stopping _ => w.logMarks
  | .check | .request | .count | .stopped _ => []

/-- A watch that puts its texts out in one place at all times, whatever its scrapes come to.
Somebody else may change the files and break the output, but not write to it. -/
inductive Rounds (target : Option Path) : Watch → List Mark → Watch → Prop where
  | refl (w : Watch) : Rounds target w [] w
  | step {w u : Watch} {ms : List Mark} (host : Host) (env : Settings.Environment) :
    Rounds target w ms u → (u.phase = .scrape → u.outputFile? = target) →
    Rounds target w (ms ++ u.marks host) (u.step host env)
  | raise {w u : Watch} {ms : List Mark} (r : Request) : Rounds target w ms u →
    Rounds target w ms (u.raise r)
  | change {w u : Watch} {ms : List Mark} (tree : FileTree) (output : Output)
    (freed : Path → Bool) : Rounds target w ms u → output.bytes = u.world.output.bytes →
    Rounds target w (ms ++ [.other u.world.tree tree])
      { u with world := u.world.changed tree output freed }

def Mark.round? : Mark → Option Round
  | .round r _ => some r
  | _ => none

def rounds (ms : List Mark) : List Round :=
  ms.filterMap Mark.round?

/-- A scrape is over and not yet counted. -/
def Phase.isCount : Phase → Bool
  | .count => true
  | _ => false

/-- What these rounds do to the output and to the count of scrapes, and what they leave behind. -/
structure Steps (target : Option Path) (w : Watch) (rs : List Round) (v : Watch) : Prop where
  bytes : v.world.output.bytes = w.world.output.bytes ++ rs.flatMap Round.sent
  count : v.scrapes + (if v.phase.isCount then 1 else 0) =
    w.scrapes + (if w.phase.isCount then 1 else 0) + rs.countP Round.counts
  file : target ≠ none → rs.flatMap Round.sent = []
  no_file : target = none → rs.filterMap Round.filed? = []

theorem rounds_append (ms ms' : List Mark) : rounds (ms ++ ms') = rounds ms ++ rounds ms' :=
  List.filterMap_append

theorem rounds_logMarks (w : Watch) : rounds w.logMarks = [] := by
  unfold logMarks
  cases w.logger <;> rfl

theorem rounds_toldMarks (w : Watch) (r : Round) : rounds (w.toldMarks r) = [] := by
  cases r with
  | unfiled f => exact rounds_logMarks w
  | failed | printed | refused | filed => rfl

/-- A step that scrapes nothing touches no file but those of the log, and leaves a mark if it may
touch one. -/
theorem marks_of_elsewhere (host : Host) (env : Settings.Environment)
    (elsewhere : w.phase ≠ .scrape) :
    w.marks host = w.logMarks ∧ Jots w (w.step host env) ∨
      w.marks host = [] ∧ (w.step host env).world.tree = w.world.tree := by
  generalize stepped : w.step host env = v
  cases stepped ▸ step_does host env w with
  | scrapes place => exact absurd place elsewhere
  | reloads place _ =>
    have reloads : Jots w (reload env { w with signals := w.signals.withoutReload }) :=
      (jots_reload env _).before rfl rfl
    exact .inl ⟨by rw [marks, place], reloads.after rfl rfl⟩
  | passes place _ => exact .inl ⟨by rw [marks, place], jots_of_same rfl rfl⟩
  | wakes place => exact .inl ⟨by rw [marks, place], jots_of_same rfl rfl⟩
  | rests place _ _ => exact .inl ⟨by rw [marks, place], (jots_tell _).before rfl rfl⟩
  | finishes place => exact .inl ⟨by rw [marks, place], jots_finish w _⟩
  | heeds place _ | goesOn place _ | takes place | stops place _ _ | lies _ place _
  | stays place => exact .inr ⟨by rw [marks, place], rfl⟩

/-- A scrape is counted in the step after it. -/
theorem step_scrapes (host : Host) (env : Settings.Environment) (w : Watch) :
    (w.step host env).scrapes = w.scrapes + (if w.phase.isCount then 1 else 0) := by
  generalize stepped : w.step host env = v
  cases stepped ▸ step_does host env w with
  | heeds place _ | goesOn place _ | passes place _ | takes place | stops place _ _
  | lies _ place _ | wakes place | stays place =>
    rw [place]
    rfl
  | reloads place _ =>
    obtain ⟨settings, collector, _, _, _, _, _, same⟩ :=
      reload_noted env { w with signals := w.signals.withoutReload }
    rw [same, place]
    rfl
  | scrapes place =>
    rw [place]
    rcases scrapeOnce_ends host w with ⟨_, _, _, _, same⟩ | ⟨fault, _, _, _, _, same⟩ <;>
      · rw [same]
        rfl
  | @rests wake place _ _ =>
    obtain ⟨_, _, _, _, _, same⟩ := noted_tell (w.sleptTo (min wake (w.now + slice)))
    rw [same, place]
    rfl
  | finishes place =>
    obtain ⟨_, _, _, same⟩ := finish_ends w _
    rw [same, place]
    rfl

theorem Turn.isCount (turn : Turn w v) (elsewhere : w.phase ≠ .scrape) :
    v.phase.isCount = false := by
  cases turn with
  | scrapes place _ _ | breaks _ place _ _ => exact absurd place elsewhere
  | stays _ place same =>
    rw [same, place]
    rfl
  | stops _ _ next _ | goesOn _ _ next _ | reloads _ next _ | takes _ next _ | counts _ _ _ _ next _
  | lies _ _ next _ | wakes _ _ next _ | rests _ _ _ next _ | finishes _ _ next _ _ =>
    rw [next]
    rfl

theorem output_scraped (host : Host) (w : Watch) :
    (w.scraped host).world.output = w.world.output :=
  (noted_tell _).output.trans (scrape_world w.world host w.collector).1

theorem noted_scraped (host : Host) (w : Watch) :
    (w.scraped host).scrapes = w.scrapes ∧ (w.scraped host).phase = w.phase ∧
      (w.scraped host).outputFile? = w.outputFile? := by
  obtain ⟨_, _, _, _, _, same⟩ :=
    noted_tell { w with world := (w.world.scrape host w.collector).1 }
  rw [scraped, same]
  exact ⟨rfl, rfl, rfl⟩

theorem jots_scraped (host : Host) (w : Watch) : Jots w (w.scraped host) :=
  (jots_tell _).before (scrape_world w.world host w.collector).2.symm rfl

theorem marks_of_none (place : w.phase = .scrape) (failed : w.exposition? host = none) :
    w.marks host = .round .failed w.world.tree :: w.logMarks := by
  simp only [Watch.marks, place, failed]

theorem marks_of_some (place : w.phase = .scrape) (said : w.exposition? host = some text) :
    w.marks host = w.logMarks ++
      .round ((w.scraped host).ending text) (w.scraped host).world.tree ::
        ((w.scraped host).withTree ((w.scraped host).published text)).toldMarks
          ((w.scraped host).ending text) := by
  simp only [Watch.marks, place, said]

theorem rounds_of_scrape (place : w.phase = .scrape) :
    rounds (w.marks host) = [w.outcome host] := by
  have some_round : ∀ r t ms, rounds (.round r t :: ms) = r :: rounds ms := fun _ _ _ => rfl
  unfold outcome
  cases said : w.exposition? host with
  | none => rw [marks_of_none place said, some_round, rounds_logMarks]
  | some text =>
    rw [marks_of_some place said, rounds_append, rounds_logMarks, some_round, rounds_toldMarks]
    rfl

theorem rounds_of_elsewhere (host : Host) (elsewhere : w.phase ≠ .scrape) :
    rounds (w.marks host) = [] := by
  rcases marks_of_elsewhere host (fun _ => none) elsewhere with ⟨marks, -⟩ | ⟨marks, -⟩
  · rw [marks, rounds_logMarks]
  · rw [marks]
    rfl

theorem Steps.trans {target : Option Path} {u : Watch} {rs rs' : List Round}
    (first : Steps target w rs u) (last : Steps target u rs' v) : Steps target w (rs ++ rs') v where
  bytes := by
    rw [last.bytes, first.bytes, List.flatMap_append, List.append_assoc]
  count := by
    rw [last.count, first.count, List.countP_append, Nat.add_assoc]
  file filed := by
    rw [List.flatMap_append, first.file filed, last.file filed, List.append_nil]
  no_file none := by
    rw [List.filterMap_append, first.no_file none, last.no_file none, List.append_nil]

theorem steps_of_none (target : Option Path)
    (bytes : v.world.output.bytes = w.world.output.bytes)
    (count : v.scrapes + (if v.phase.isCount then 1 else 0) =
      w.scrapes + (if w.phase.isCount then 1 else 0)) : Steps target w [] v :=
  ⟨bytes.trans (List.append_nil _).symm, count, fun _ => rfl, fun _ => rfl⟩

/-- What is published is put out in the place that is in use, and the scrape is to be counted unless
the output is broken. -/
theorem Publishes.steps (published : Publishes w text r v) (place : w.phase.isCount = false) :
    Steps w.outputFile? w [r] v := by
  cases published with
  | printed output no_file bytes =>
    refine ⟨?_, ?_, fun file => absurd no_file file, fun _ => rfl⟩
    · rw [List.flatMap_singleton]
      exact bytes
    · rw [place]
      rfl
  | refused output taken fault no_file bytes =>
    refine ⟨?_, ?_, fun file => absurd no_file file, fun _ => rfl⟩
    · rw [List.flatMap_singleton]
      exact bytes
    · rw [place]
      rfl
  | filed file done =>
    refine ⟨(List.append_nil _).symm, ?_, fun _ => rfl, fun no_file => ?_⟩
    · rw [place]
      rfl
    · rw [file] at no_file
      cases no_file
  | @unfiled p f file failed =>
    have noted := noted_fail (w.withTree (w.written text p).1) "" f
    have output := noted.output
    obtain ⟨_, _, _, _, _, same⟩ := noted
    refine ⟨?_, ?_, fun _ => rfl, fun _ => rfl⟩
    · dsimp only
      rw [output]
      exact (List.append_nil _).symm
    · rw [same, place]
      rfl

/-- A step puts out what its round says and counts it. -/
theorem step_steps {target : Option Path} (host : Host) (env : Settings.Environment)
    (fixed : w.phase = .scrape → w.outputFile? = target) :
    Steps target w (rounds (w.marks host)) (w.step host env) := by
  by_cases place : w.phase = .scrape
  · have steps : w.step host env = w.scrapeOnce host := by rw [Watch.step, place]
    rw [rounds_of_scrape place, steps]
    unfold outcome
    cases said : w.exposition? host with
    | none =>
      obtain ⟨f, failed⟩ := scrapeOnce_of_none said
      have noted := noted_fail
        { w with world := (w.world.scrape host w.collector).1 } "scrape failed: " f
      have output := noted.output.trans (scrape_world w.world host w.collector).1
      obtain ⟨_, _, _, _, _, same⟩ := noted
      rw [failed]
      refine ⟨?_, ?_, fun _ => rfl, fun _ => rfl⟩
      · dsimp only
        rw [output]
        exact (List.append_nil _).symm
      · rw [same, place]
        rfl
    | some text =>
      obtain ⟨scrapes, phase, file⟩ := noted_scraped host w
      have in_scrape : (w.scraped host).phase.isCount = false := by
        rw [phase, place]
        rfl
      have before : Steps target w [] (w.scraped host) := by
        refine steps_of_none target ?_ ?_
        · rw [output_scraped]
        · rw [scrapes, phase]
      have published := (publish_cases (w.scraped host) text).steps in_scrape
      rw [file, fixed place] at published
      rw [scrapeOnce_of_some said]
      exact before.trans published
  · rw [rounds_of_elsewhere host place]
    refine steps_of_none target ?_ ?_
    · rw [output_of_elsewhere env place]
    · rw [(step_turn host env w).isCount place, step_scrapes]
      rfl

theorem Rounds.steps {target : Option Path} {ms : List Mark} (run : Rounds target w ms v) :
    Steps target w (rounds ms) v := by
  induction run with
  | refl => exact steps_of_none target rfl rfl
  | step host env _ fixed ih =>
    rw [rounds_append]
    exact ih.trans (step_steps host env fixed)
  | raise r _ ih => exact ⟨ih.bytes, ih.count, ih.file, ih.no_file⟩
  | change tree output freed _ same ih =>
    rw [rounds_append]
    exact ih.trans (steps_of_none target same rfl)

theorem Publishes.phase (published : Publishes w text r v) : v.phase = r.next := by
  cases published <;> rfl

theorem phase_of_scrape (host : Host) (env : Settings.Environment) (place : w.phase = .scrape) :
    (w.step host env).phase = (w.outcome host).next := by
  rw [Watch.step, place, outcome]
  dsimp only
  cases said : w.exposition? host with
  | none =>
    obtain ⟨f, failed⟩ := scrapeOnce_of_none said
    rw [failed]
    rfl
  | some text =>
    rw [scrapeOnce_of_some said]
    exact (publish_cases _ text).phase

/-- What is published changes the file. The log touches files after it only if it is told. -/
theorem Publishes.jots (published : Publishes w text r v) :
    (∃ f, r = .unfiled f) ∧ Jots (w.withTree (w.published text)) v ∨
      (w.withTree (w.published text)).toldMarks r = [] ∧ v.world.tree = w.published text := by
  rw [Watch.published]
  cases published with
  | printed _ no_file _ | refused _ _ _ no_file _ =>
    rw [no_file]
    exact .inr ⟨rfl, rfl⟩
  | filed file _ =>
    rw [file]
    exact .inr ⟨rfl, rfl⟩
  | @unfiled p f file _ =>
    rw [file]
    exact .inl ⟨⟨f, rfl⟩, (jots_fail _ "" _).after rfl rfl⟩

theorem jots_of_failed (env : Settings.Environment) (place : w.phase = .scrape)
    (failed : w.exposition? host = none) : Jots w (w.step host env) := by
  obtain ⟨f, same⟩ := scrapeOnce_of_none failed
  rw [Watch.step, place]
  dsimp only
  rw [same]
  have tells : Jots w (fail { w with world := (w.world.scrape host w.collector).1 }
      "scrape failed: " f) :=
    (jots_fail _ _ f).before (scrape_world w.world host w.collector).2.symm rfl
  exact tells.after rfl rfl

end

end Watch

end MountProbe
