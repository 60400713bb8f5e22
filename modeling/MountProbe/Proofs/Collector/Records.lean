import MountProbe.Proofs.Collector.Progress

/-! What a scrape says. Its records are its accepted rows, each once, whatever else is under way and
in whatever order the workers are done. Each place that is accepted is looked up in the registry
once, and asked for once if it is not there. -/
namespace MountProbe

/-- What a record is to say of this row alone. -/
def Mount.Label.row (l : Mount.Label) : Mount.Label × Binary64 :=
  (l.withoutOptions, Stat.flag l.isReadOnly)

namespace Stat.Record

def row (r : Record) : Mount.Label × Binary64 :=
  (r.label, r.readOnly)

/-- Two records say the same of the place that they are on. -/
structure Alike (a b : Record) : Prop where
  size : a.size = b.size
  free : a.free = b.free
  available : a.available = b.available
  files : a.files = b.files
  filesFree : a.filesFree = b.filesFree
  deviceError : a.deviceError = b.deviceError
  cause : a.cause = b.cause

theorem Alike.refl (a : Record) : a.Alike a := by
  constructor <;> rfl

theorem Alike.symm {a b : Record} (h : a.Alike b) : b.Alike a := by
  cases h
  constructor <;> symm <;> assumption

theorem Alike.trans {a b c : Record} (h : a.Alike b) (k : b.Alike c) : a.Alike c := by
  cases h
  cases k
  constructor <;> simp_all

theorem row_ofOutcome (l : Mount.Label) (o : Stuck.Outcome) : (ofOutcome l o).row = l.row := by
  unfold ofOutcome
  split <;> rfl

theorem mountPoint_of_row {r : Record} {l : Mount.Label} (h : r.row = l.row) :
    r.mountPoint = l.mountPoint := by
  have label : r.label = l.withoutOptions := congrArg Prod.fst h
  rw [mountPoint, label]
  rfl

theorem shared_rows {records : List Record} {repeated : List Mount.Label}
    (covered : ∀ l ∈ repeated, ∃ r ∈ records, r.mountPoint.same l.mountPoint = true) :
    (shared records repeated).map row = repeated.map Mount.Label.row := by
  induction repeated with
  | nil => rfl
  | cons l rest ih =>
    have known : (records.find? fun r => r.mountPoint.same l.mountPoint).isSome = true :=
      List.find?_isSome.mpr (covered l List.mem_cons_self)
    obtain ⟨found, here⟩ := Option.isSome_iff_exists.mp known
    have later := ih fun l' member => covered l' (List.mem_cons_of_mem _ member)
    rw [shared] at later ⊢
    rw [List.filterMap_cons, here, Option.map_some, List.map_cons, List.map_cons, later]
    rfl

theorem alike_of_mem_shared {records : List Record} {repeated : List Mount.Label} {r : Record}
    (h : r ∈ shared records repeated) :
    ∃ b ∈ records, b.mountPoint.same r.mountPoint = true ∧ r.Alike b := by
  obtain ⟨l, _, found⟩ := List.mem_filterMap.mp h
  obtain ⟨b, here, rfl⟩ := Option.map_eq_some_iff.mp found
  have same : b.mountPoint.same l.mountPoint = true := by simpa using List.find?_some here
  exact ⟨b, List.mem_of_find?_eq_some here, same, by constructor <;> rfl⟩

end Stat.Record

namespace Traffic

/-- The mount that the dispatcher of a cycle looks at, and whether it finds it stuck. -/
def Event.admission? (i : Nat) : Event → Option (Mount.Label × Bool)
  | considered j l stuck => if j = i then some (l, stuck) else none
  | _ => none

def admissions (i : Nat) (es : List Event) : List (Mount.Label × Bool) :=
  es.filterMap (Event.admission? i)

theorem admitted_poolEvents (i : Nat) (es : List Event) :
    Pool.admitted (poolEvents i es) = (admissions i es).map fun a => (a.1, admission a.1 a.2) := by
  rw [Pool.admitted, poolEvents, admissions, List.filterMap_filterMap, List.map_filterMap]
  congr 1
  funext e
  cases e with
  | considered j l stuck =>
    by_cases here : j = i <;> simp [Event.inPool?, Event.pool?, Event.admission?, here]
  | took j l => by_cases here : j = i <;> simp [Event.inPool?, Event.pool?, Event.admission?, here]
  | handed j l o =>
    by_cases here : j = i <;> simp [Event.inPool?, Event.pool?, Event.admission?, here]
  | collected j r =>
    by_cases here : j = i <;> simp [Event.inPool?, Event.pool?, Event.admission?, here]
  | _ => rfl

theorem dispatched_of_admissions (as : List (Mount.Label × Bool)) :
    (as.map fun a => (a.1, admission a.1 a.2)).filterMap Pool.dispatchedOf =
      (as.filter (!·.2)).map (·.1) := by
  induction as with
  | nil => rfl
  | cons a as ih =>
    obtain ⟨l, stuck⟩ := a
    cases stuck <;>
      simp only [admission, List.map_cons, List.filterMap_cons, Pool.dispatchedOf,
        List.filter_cons] <;> simpa [admission] using ih

theorem resolved_of_admissions (as : List (Mount.Label × Bool)) :
    (as.map fun a => (a.1, admission a.1 a.2)).filterMap Pool.resolvedOf =
      (as.filter (·.2)).map (.stuck ·.1) := by
  induction as with
  | nil => rfl
  | cons a as ih =>
    obtain ⟨l, stuck⟩ := a
    cases stuck <;>
      simp only [admission, List.map_cons, List.filterMap_cons, Pool.resolvedOf,
        List.filter_cons] <;> simpa [admission] using ih

section

variable {now i : Nat} {c : Collector} {mounts : List Mount.Label} {es : List Event} {cyc : Cycle}
  {t : Traffic}

theorem Course.of_isDone (course : Course i (.start now c mounts) es cyc)
    (done : cyc.pool.isDone = true) :
    (admissions i es).map (·.1) = (Mount.splitRepeated [] (c.accepted mounts)).1 ∧
      Pool.taken (poolEvents i es) = ((admissions i es).filter (!·.2)).map (·.1) ∧
      (((admissions i es).filter (!·.2)).map (·.1)).Perm
        ((Pool.finished (poolEvents i es)).map (·.1)) ∧
      cyc.pool.results.Perm (((admissions i es).filter (·.2)).map (.stuck ·.1) ++
        (Pool.finished (poolEvents i es)).map (·.2)) := by
  obtain ⟨looked_at, taken, at_work, results⟩ := (Pool.books_run course.pool).of_isDone done
  rw [admitted_poolEvents] at looked_at taken results
  rw [dispatched_of_admissions] at taken
  rw [resolved_of_admissions] at results
  rw [taken] at at_work
  rw [List.map_map] at looked_at
  exact ⟨looked_at, taken, at_work, results⟩

theorem Course.results_rows (course : Course i (.start now c mounts) es cyc)
    (done : cyc.pool.isDone = true) (handed : HandsIn i es t) :
    (cyc.pool.results.map (·.row)).Perm
      ((Mount.splitRepeated [] (c.accepted mounts)).1.map (·.row)) := by
  obtain ⟨looked_at, _, at_work, results⟩ := course.of_isDone done
  have stuck_rows : (((admissions i es).filter (·.2)).map (.stuck ·.1)).map Stat.Record.row =
      (((admissions i es).filter (·.2)).map (·.1)).map Mount.Label.row := by
    rw [List.map_map, List.map_map]
    rfl
  have finished_rows : ((Pool.finished (poolEvents i es)).map (·.2)).map Stat.Record.row =
      ((Pool.finished (poolEvents i es)).map (·.1)).map Mount.Label.row := by
    rw [List.map_map, List.map_map]
    refine List.map_congr_left fun a member => ?_
    obtain ⟨call, _, _, o, _, same⟩ := handed a.1 a.2 member
    rw [Function.comp_apply, same, Stat.Record.row_ofOutcome]
    rfl
  rw [← looked_at]
  refine (results.map _).trans ?_
  rw [List.map_append, stuck_rows, finished_rows, ← List.map_append]
  refine List.Perm.map _ ((at_work.symm.append_left _).trans ?_)
  rw [← List.map_append]
  exact (List.filter_append_perm (·.2) (admissions i es)).map _

theorem Course.results_apart (course : Course i (.start now c mounts) es cyc)
    (done : cyc.pool.isDone = true) (handed : HandsIn i es t) :
    Path.Apart (cyc.pool.results.map (·.mountPoint)) := by
  have places := (course.results_rows done handed).map fun row => row.1.mountPoint
  rw [List.map_map, List.map_map] at places
  exact (Mount.splitRepeated_apart [] (c.accepted mounts)).perm places.symm

theorem Course.results_cover (course : Course i (.start now c mounts) es cyc)
    (done : cyc.pool.isDone = true) (handed : HandsIn i es t) {l : Mount.Label}
    (first : l ∈ (Mount.splitRepeated [] (c.accepted mounts)).1) :
    ∃ r ∈ cyc.pool.results, r.mountPoint = l.mountPoint := by
  have row := (course.results_rows done handed).mem_iff.mpr (List.mem_map_of_mem first)
  obtain ⟨r, member, same⟩ := List.mem_map.mp row
  exact ⟨r, member, Stat.Record.mountPoint_of_row same⟩

theorem mem_accepted {l : Mount.Label} :
    l ∈ c.accepted mounts ↔ (l, Verdict.accepted) ∈ c.verdicts mounts := by
  simp only [Collector.accepted, Collector.verdicts, List.mem_filter, decide_eq_true_eq,
    List.mem_map, Prod.mk.injEq]
  constructor
  · rintro ⟨member, accepted⟩
    exact ⟨l, member, rfl, accepted⟩
  · rintro ⟨_, member, rfl, accepted⟩
    exact ⟨member, accepted⟩

theorem verdicts_accepted :
    ((c.verdicts mounts).filter (·.2 = .accepted)).map (·.1) = c.accepted mounts := by
  simp [Collector.accepted, Collector.verdicts, List.filter_map, Function.comp_def]

theorem covered_of_accepted {l : Mount.Label} (accepted : l ∈ c.accepted mounts) :
    ∃ m ∈ (Mount.splitRepeated [] (c.accepted mounts)).1,
      m.mountPoint.same l.mountPoint = true := by
  have either := (Mount.splitRepeated_perm [] (c.accepted mounts)).mem_iff.mpr accepted
  rcases List.mem_append.mp either with first | repeated
  · exact ⟨l, first, Path.same_refl _⟩
  · have either := Mount.splitRepeated_covered [] (c.accepted mounts) l repeated
    rcases either with ⟨_, none_seen, _⟩ | here
    · cases none_seen
    · exact here

/-- What a scrape of a mount table says in the end, and how its cycle came to say so. -/
structure Scraped (c : Collector) (mounts : List Mount.Label) (i : Nat) (es : List Event)
    (t : Traffic) (records : List Stat.Record) : Prop where
  rows : (records.map (·.row)).Perm
    (((c.verdicts mounts).filter (·.2 = .accepted)).map fun verdict => verdict.1.row)
  alike : ∀ a ∈ records, ∀ b ∈ records, a.mountPoint.same b.mountPoint = true → a.Alike b
  admitted : ∀ a ∈ admissions i es, (a.1, .accepted) ∈ c.verdicts mounts
  admitted_once : Path.Apart ((admissions i es).map (·.1.mountPoint))
  admitted_all : ∀ l, (l, .accepted) ∈ c.verdicts mounts →
    ∃ a ∈ admissions i es, a.1.mountPoint.same l.mountPoint = true
  /-- Calls are made on the admitted places that are not stuck, once each, and on no others. -/
  called : (t.callsOf i).map (·.path) =
    ((admissions i es).filter (!·.2)).map (·.1.mountPoint)
  stuck : ∀ l, (l, true) ∈ admissions i es →
    ∀ r ∈ records, l.mountPoint.same r.mountPoint = true →
      r.deviceError = Binary64.one ∧ r.cause = some "mountpoint timeout"
  told : ∀ l, (l, false) ∈ admissions i es → ∃ call ∈ t.callsOf i, call.client.label = l ∧
    ∃ o, call.outcome? = some o ∧
      ∀ r ∈ records, l.mountPoint.same r.mountPoint = true → r.Alike (.ofOutcome l o)

section

variable {records : List Stat.Record}

theorem Course.result_behind (course : Course i (.start now c mounts) es cyc)
    (ended : cyc.records = some records) {r : Stat.Record} (member : r ∈ records) :
    ∃ b ∈ cyc.pool.results, b.mountPoint.same r.mountPoint = true ∧ r.Alike b := by
  rw [(course.ended records ended).2] at member
  rcases List.mem_append.mp member with own | shared
  · exact ⟨r, own, Path.same_refl _, .refl r⟩
  · exact Stat.Record.alike_of_mem_shared shared

theorem Course.alike_result (course : Course i (.start now c mounts) es cyc)
    (handed : HandsIn i es t) (ended : cyc.records = some records) {b r : Stat.Record}
    (result : b ∈ cyc.pool.results) (member : r ∈ records)
    (same : b.mountPoint.same r.mountPoint = true) : r.Alike b := by
  have apart := course.results_apart (course.ended records ended).1 handed
  obtain ⟨b', result', same', alike⟩ := course.result_behind ended member
  rw [apart.eq_of_same result result' (Path.same_trans same (Path.same_symm same'))]
  exact alike

theorem Course.records_rows (course : Course i (.start now c mounts) es cyc)
    (handed : HandsIn i es t) (ended : cyc.records = some records) :
    (records.map (·.row)).Perm
      (((c.verdicts mounts).filter (·.2 = .accepted)).map fun verdict => verdict.1.row) := by
  obtain ⟨done, all⟩ := course.ended records ended
  have repeated : cyc.repeated = (Mount.splitRepeated [] (c.accepted mounts)).2 := course.repeated
  have shared : (Stat.Record.shared cyc.pool.results cyc.repeated).map (·.row) =
      cyc.repeated.map (·.row) := by
    refine Stat.Record.shared_rows fun l member => ?_
    rw [repeated] at member
    have accepted := (Mount.splitRepeated_perm [] (c.accepted mounts)).mem_iff.mp
      (List.mem_append_right _ member)
    obtain ⟨m, first, same⟩ := covered_of_accepted accepted
    obtain ⟨r, here, place⟩ := course.results_cover done handed first
    exact ⟨r, here, by rw [place]; exact same⟩
  have accepted_rows : (((c.verdicts mounts).filter (·.2 = .accepted)).map
      fun verdict => verdict.1.row) = (c.accepted mounts).map (·.row) := by
    rw [← verdicts_accepted, List.map_map]
    rfl
  rw [accepted_rows, all, List.map_append, shared, repeated]
  refine ((course.results_rows done handed).append_right _).trans ?_
  rw [← List.map_append]
  exact (Mount.splitRepeated_perm [] _).map _

end

theorem Course.scraped (course : Course i (.start now c mounts) es cyc) (orderly : Orderly t)
    (handed : HandsIn i es t) (calls : t.calledFor i = Pool.taken (poolEvents i es))
    {records : List Stat.Record} (ended : cyc.records = some records) :
    Scraped c mounts i es t records := by
  obtain ⟨looked_at, taken, at_work, results⟩ :=
    course.of_isDone (course.ended records ended).1
  constructor
  · exact course.records_rows handed ended
  · intro a ha b hb same
    obtain ⟨r, result, place, alike⟩ := course.result_behind ended ha
    exact alike.trans (course.alike_result handed ended result hb (Path.same_trans place same)).symm
  · intro a member
    have first : a.1 ∈ (admissions i es).map (·.1) := List.mem_map_of_mem member
    rw [looked_at] at first
    exact mem_accepted.mp ((Mount.splitRepeated_perm [] _).mem_iff.mp
      (List.mem_append_left _ first))
  · have places := Mount.splitRepeated_apart [] (c.accepted mounts)
    rw [← looked_at, List.map_map] at places
    exact places
  · intro l accepted
    obtain ⟨m, first, same⟩ := covered_of_accepted (mem_accepted.mpr accepted)
    rw [← looked_at] at first
    obtain ⟨a, member, rfl⟩ := List.mem_map.mp first
    exact ⟨a, member, same⟩
  · have paths : (t.callsOf i).map (·.path) = (t.calledFor i).map (·.mountPoint) := by
      rw [calledFor, List.map_map]
      refine List.map_congr_left fun call member => ?_
      exact orderly.path_eq call (List.mem_filter.mp member).1
    rw [paths, calls, taken, List.map_map]
    rfl
  · intro l member r here same
    have result : Stat.Record.stuck l ∈ cyc.pool.results := by
      refine results.mem_iff.mpr (List.mem_append_left _ ?_)
      exact List.mem_map.mpr ⟨(l, true), List.mem_filter.mpr ⟨member, rfl⟩, rfl⟩
    have alike := course.alike_result handed ended result here same
    exact ⟨alike.deviceError, alike.cause⟩
  · intro l member
    have dispatched : l ∈ (Pool.finished (poolEvents i es)).map (·.1) := by
      refine at_work.mem_iff.mp ?_
      exact List.mem_map.mpr ⟨(l, false), List.mem_filter.mpr ⟨member, rfl⟩, rfl⟩
    obtain ⟨⟨l', b⟩, finished, rfl⟩ := List.mem_map.mp dispatched
    obtain ⟨call, mine, label, o, told, same⟩ := handed _ _ finished
    have result : b ∈ cyc.pool.results :=
      results.mem_iff.mpr (List.mem_append_right _ (List.mem_map.mpr ⟨_, finished, rfl⟩))
    refine ⟨call, mine, label, o, told, fun r here place => ?_⟩
    rw [← same]
    refine course.alike_result handed ended result here ?_
    rw [same, Stat.Record.mountPoint_of_row (Stat.Record.row_ofOutcome _ o)]
    exact place

theorem scraped_of_run {u v : Traffic} (orderly : Orderly t)
    (begun : Step t (.began now c mounts) u) (run : Run u es v) {records : List Stat.Record}
    (said : v.records? t.cycles.length = some records) :
    Scraped c mounts t.cycles.length es v records := by
  obtain ⟨cyc, cycle, course, calls⟩ := (orderly.begun begun).run run
  rw [records?, cycle] at said
  exact course.scraped ((orderly.step begun).run run) (handsIn_run _ run) calls said

/-- A scrape can always come to its end, and what it then says is right. -/
theorem each_accepted_row_recorded {g : Stuck.Registry} {bs : List Event} {u v : Traffic}
    (before : Run ⟨⟨g, []⟩, [], []⟩ bs t) (begun : Step t (.began now c mounts) u)
    (run : Run u es v) :
    (∃ fs w records, Run v fs w ∧ w.records? t.cycles.length = some records) ∧
      ∀ records, v.records? t.cycles.length = some records →
        Scraped c mounts t.cycles.length es v records := by
  have orderly : Orderly t := (orderly_start g).run before
  exact ⟨can_end orderly begun run, fun _ said => scraped_of_run orderly begun run said⟩

end

/-- Two rows on one place, the second of them read-only, one that the filters below leave out, and
one on a place that the run below finds stuck. -/
def fourRows : List Mount.Label :=
  [{ device := "sda", mountPoint := ⟨[47, 97]⟩, fsType := "ext4" },
    { device := "none", mountPoint := ⟨[47, 98]⟩, fsType := "tmpfs" },
    { device := "sdb", mountPoint := ⟨[47, 97, 47]⟩, fsType := "ext4", mountOptions := "ro" },
    { device := "nas", mountPoint := ⟨[47, 99]⟩, fsType := "nfs" }]

/-- It leaves out what has a file system type of five characters or more. -/
def shortTypes : Collector where
  filters := ⟨⟨none, none⟩, ⟨some fun type => 5 ≤ type.toList.length, none⟩⟩
  workers := 4
  guard := ⟨100, false⟩

def oneStuck : Stuck.Registry := ⟨[⟨⟨[47, 99]⟩, 0⟩]⟩

theorem each_accepted_row_recorded_of_four :
    ∃ (es : List Event) (t : Traffic) (records : List Stat.Record),
      records.map (fun r => (r.mountPoint, r.deviceError, r.readOnly)) =
        [(⟨[47, 99]⟩, Binary64.one, Binary64.zero), (⟨[47, 97]⟩, Binary64.zero, Binary64.zero),
          (⟨[47, 97, 47]⟩, Binary64.zero, Binary64.one)] ∧
      t.records? 0 = some records ∧ Scraped shortTypes fourRows 0 es t records := by
  have before := Run.refl (⟨⟨oneStuck, []⟩, [], []⟩ : Traffic)
  have begun := Step.begin ⟨⟨oneStuck, []⟩, [], []⟩ 0 shortTypes fourRows
  have asked := (((Run.refl (Traffic.begin ⟨⟨oneStuck, []⟩, [], []⟩ 0 shortTypes fourRows)).step
    (.consider (i := 0) rfl rfl rfl)).step (.take (i := 0) rfl rfl rfl)).step
    (.consider (i := 0) rfl rfl rfl)
  have answered := ((asked.step
    (.finish (show finish? _ 0 (.answered (.ok ⟨1, 2, 3, 4, 5, 6⟩)) = some _ from rfl))).step
    (.report (k := 0) rfl (show report? _ 5 0 = some _ from rfl))).step (.receive (k := 0) rfl rfl)
  have run := (((answered.step (.handIn (k := 0) rfl rfl rfl rfl)).step
    (.collect (i := 0) rfl rfl rfl)).step (.collect (i := 0) rfl rfl rfl)).step
    (.close (show close? _ 5 0 = some _ from rfl) rfl)
  exact ⟨_, _, _, rfl, rfl, (each_accepted_row_recorded before begun run).2 _ rfl⟩

end Traffic

end MountProbe
