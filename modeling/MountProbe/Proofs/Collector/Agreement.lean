import MountProbe.Command.Run
import MountProbe.Proofs.Collector.Found
import MountProbe.Proofs.Gauge.Firsts
import MountProbe.Proofs.Path.Order

/-! Scrapes that find out the same say the same. The order in which the workers were done shows in
the records, but not when these are sorted by place, and not in which of them are kept. -/
namespace MountProbe

open Gauge (firsts firstAbout?)

theorem find?_on_place {α : Type} (label : α → Mount.Label) (xs : List α) {l : Mount.Label}
    {p : Path} (here : l.mountPoint.same p = true) :
    (xs.filter fun a => (label a).mountPoint.same p).find? (fun a => (label a).subject = l.subject) =
      xs.find? fun a => (label a).subject = l.subject := by
  rw [List.find?_filter]
  congr 1
  funext a
  rw [decide_eq_decide, decide_eq_true_eq, and_iff_right_iff_imp]
  intro about
  have steps : (label a).mountPoint.components = l.mountPoint.components :=
    congrArg (fun subject => subject.2.1) about
  exact Path.same_trans (Path.same_iff.mpr steps) here

theorem Stat.Record.subject_ofOutcome (l : Mount.Label) (o : Stuck.Outcome) :
    (ofOutcome l o).label.subject = l.subject := by
  have label : (ofOutcome l o).label = l.withoutOptions := congrArg Prod.fst (row_ofOutcome l o)
  rw [label]
  rfl

theorem Command.sorted_inOrder (records : List Stat.Record) :
    (inOrder records).Pairwise fun a b =>
      a.mountPoint.compareByComponents b.mountPoint ≠ .gt :=
  (Path.sorted_mergeSort Stat.Record.mountPoint records).imp fun first => by
    simpa [Path.upTo] using first

namespace Traffic

section

variable {c : Collector} {mounts : List Mount.Label} {i i' : Nat} {es es' : List Event}
  {t t' : Traffic} {records records' : List Stat.Record}

theorem InTableOrder.nothing_on (h : InTableOrder c mounts i es t records) {p : Path}
    (nowhere : ∀ l ∈ c.accepted mounts, ¬ l.mountPoint.same p = true) :
    records.filter (·.mountPoint.same p) = [] := by
  refine List.filter_eq_nil_iff.mpr fun r member here => ?_
  obtain ⟨l, accepted, same⟩ := h.accepted r member
  exact nowhere l accepted (Path.same_trans same here)

theorem InTableOrder.on (h : InTableOrder c mounts i es t records) {l : Mount.Label}
    (accepted : l ∈ c.accepted mounts) {p : Path} (here : l.mountPoint.same p = true) :
    ∃ o, Finds i es t p o ∧ records.filter (·.mountPoint.same p) =
      ((c.accepted mounts).filter (·.mountPoint.same p)).map (Stat.Record.ofOutcome · o) := by
  obtain ⟨o, finds, on_place⟩ := h.on_place l accepted
  simp only [Path.same_right here] at on_place
  exact ⟨o, finds.of_same here, on_place⟩

theorem InTableOrder.rows_on (h : InTableOrder c mounts i es t records) (p : Path) :
    (records.filter (·.mountPoint.same p)).map (·.row) =
      ((c.accepted mounts).filter (·.mountPoint.same p)).map (·.row) := by
  by_cases somewhere : ∃ l ∈ c.accepted mounts, l.mountPoint.same p = true
  · obtain ⟨l, accepted, here⟩ := somewhere
    obtain ⟨o, _, on_place⟩ := h.on accepted here
    rw [on_place, List.map_map]
    exact List.map_congr_left fun m _ => Stat.Record.row_ofOutcome m o
  · have nowhere : ∀ l ∈ c.accepted mounts, ¬ l.mountPoint.same p = true := by
      simpa using somewhere
    rw [h.nothing_on nowhere, List.filter_eq_nil_iff.mpr nowhere]
    rfl

theorem InTableOrder.agree (h : InTableOrder c mounts i es t records)
    (h' : InTableOrder c mounts i' es' t' records')
    (same_found : ∀ p o o', Finds i es t p o → Finds i' es' t' p o' → o = o') (p : Path) :
    records.filter (·.mountPoint.same p) = records'.filter (·.mountPoint.same p) := by
  by_cases somewhere : ∃ l ∈ c.accepted mounts, l.mountPoint.same p = true
  · obtain ⟨l, accepted, here⟩ := somewhere
    obtain ⟨o, finds, on_place⟩ := h.on accepted here
    obtain ⟨o', finds', on_place'⟩ := h'.on accepted here
    rw [on_place, on_place', same_found p o o' finds finds']
  · have nowhere : ∀ l ∈ c.accepted mounts, ¬ l.mountPoint.same p = true := by
      simpa using somewhere
    rw [h.nothing_on nowhere, h'.nothing_on nowhere]

theorem InTableOrder.first_row (h : InTableOrder c mounts i es t records) {r : Stat.Record}
    (kept : r ∈ firsts records) :
    ∃ l, (c.accepted mounts).find? (fun m => m.subject = r.label.subject) = some l ∧
      r.row = l.row := by
  obtain ⟨l, accepted, here⟩ := h.accepted r (Gauge.mem_of_mem_firsts kept)
  obtain ⟨o, _, on_place⟩ := h.on accepted here
  have first := Gauge.mem_firsts.mp kept
  rw [firstAbout?, ← find?_on_place Stat.Record.label records (Path.same_refl _)] at first
  change (records.filter (·.mountPoint.same r.mountPoint)).find? _ = _ at first
  rw [on_place, List.find?_map] at first
  obtain ⟨m, found, rfl⟩ := Option.map_eq_some_iff.mp first
  simp only [Function.comp_def, Stat.Record.subject_ofOutcome, Stat.Record.mountPoint_ofOutcome]
    at found ⊢
  exact ⟨m, (find?_on_place id _ (Path.same_refl _)).symm.trans found,
    Stat.Record.row_ofOutcome m o⟩

theorem InTableOrder.all_kept (h : InTableOrder c mounts i es t records) {l : Mount.Label}
    (accepted : l ∈ c.accepted mounts) :
    ∃ r ∈ firsts records, r.label.subject = l.subject := by
  obtain ⟨o, _, on_place⟩ := h.on_place l accepted
  have listed : Stat.Record.ofOutcome l o ∈ records.filter (·.mountPoint.same l.mountPoint) := by
    rw [on_place]
    exact List.mem_map_of_mem (List.mem_filter.mpr ⟨accepted, Path.same_refl _⟩)
  obtain ⟨r, kept, same⟩ := Gauge.exists_mem_firsts (List.mem_filter.mp listed).1
  exact ⟨r, kept, same.trans (Stat.Record.subject_ofOutcome l o)⟩

/-- What two scrapes of a mount table have in common. -/
structure Agree (c : Collector) (mounts : List Mount.Label) (records records' : List Stat.Record) :
    Prop where
  in_order : Command.inOrder records = Command.inOrder records'
  sorted : (Command.inOrder records).Pairwise fun a b =>
    a.mountPoint.compareByComponents b.mountPoint ≠ .gt
  every : (Command.inOrder records).Perm records
  /-- On one place the records stand as their rows do in the table. -/
  on_place : ∀ p, ((Command.inOrder records).filter (·.mountPoint.same p)).map (·.row) =
    ((c.accepted mounts).filter (·.mountPoint.same p)).map (·.row)
  kept : ∀ r, r ∈ firsts records ↔ r ∈ firsts records'
  /-- The row of a record that is kept is the first one that is about the same. -/
  first_row : ∀ r ∈ firsts records, ∃ l,
    (c.accepted mounts).find? (fun m => m.subject = r.label.subject) = some l ∧ r.row = l.row
  all_kept : ∀ l ∈ c.accepted mounts, ∃ r ∈ firsts records, r.label.subject = l.subject

theorem firstAbout?_eq_of_agree
    (agree : ∀ p, records.filter (·.mountPoint.same p) = records'.filter (·.mountPoint.same p))
    (l : Mount.Label) : firstAbout? l.subject records = firstAbout? l.subject records' := by
  rw [firstAbout?, firstAbout?,
    ← find?_on_place Stat.Record.label records (Path.same_refl l.mountPoint),
    ← find?_on_place Stat.Record.label records' (Path.same_refl l.mountPoint)]
  exact congrArg (List.find? _) (agree l.mountPoint)

theorem InTableOrder.agrees (h : InTableOrder c mounts i es t records)
    (h' : InTableOrder c mounts i' es' t' records')
    (same_found : ∀ p o o', Finds i es t p o → Finds i' es' t' p o' → o = o') :
    Agree c mounts records records' where
  in_order := Path.mergeSort_eq_of_agree (h.agree h' same_found)
  sorted := Command.sorted_inOrder records
  every := List.mergeSort_perm records _
  on_place p := by
    rw [← h.rows_on p]
    exact congrArg (List.map _) (Path.filter_mergeSort records p)
  kept r := by
    rw [Gauge.mem_firsts, Gauge.mem_firsts, firstAbout?_eq_of_agree (h.agree h' same_found)]
  first_row _ kept := h.first_row kept
  all_kept _ accepted := h.all_kept accepted

end

/-- Whatever the order in which the workers of two scrapes of a mount table were done, and whatever
went on beside them: if they find out the same about every place, they say the same. -/
theorem agree_of_runs {g g' : Stuck.Registry} {bs bs' es es' : List Event}
    {t t' u u' v v' : Traffic} {now now' : Nat} {c : Collector} {mounts : List Mount.Label}
    {records records' : List Stat.Record}
    (before : Run ⟨⟨g, []⟩, [], []⟩ bs t) (before' : Run ⟨⟨g', []⟩, [], []⟩ bs' t')
    (begun : Step t (.began now c mounts) u) (begun' : Step t' (.began now' c mounts) u')
    (run : Run u es v) (run' : Run u' es' v')
    (said : v.records? t.cycles.length = some records)
    (said' : v'.records? t'.cycles.length = some records')
    (same_found : ∀ p o o', Finds t.cycles.length es v p o → Finds t'.cycles.length es' v' p o' →
      o = o') :
    Agree c mounts records records' :=
  (inTableOrder_of_run before begun run said).agrees
    (inTableOrder_of_run before' begun' run' said') same_found

/-- Two workers, who may be done in either order. -/
def twoWorkers : Collector :=
  ⟨⟨⟨none, none⟩, ⟨none, none⟩⟩, 2, ⟨100, false⟩⟩

def rowOfB : Mount.Label :=
  { device := "sdb", mountPoint := ⟨[47, 98]⟩, fsType := "ext4" }

def rowOfA : Mount.Label :=
  { device := "sda", mountPoint := ⟨[47, 97]⟩, fsType := "ext4" }

/-- The last row is on the place of the one before it. -/
def threeRows : List Mount.Label :=
  [rowOfB, rowOfA, { rowOfA with mountPoint := ⟨[47, 97, 47]⟩, mountOptions := "ro" }]

def answerOfB : Stat.Answer :=
  .ok ⟨1, 2, 3, 4, 5, 6⟩

def answerOfA : Stat.Answer :=
  .error (.fsStats ⟨[47, 97]⟩ "down")

/-- The two places that are asked for answer this, whenever they do. -/
structure BothTold (es : List Event) (t : Traffic) : Prop where
  asked : admissions 0 es = [(rowOfB, false), (rowOfA, false)]
  told : (t.callsOf 0).map (fun call => (call.client.label, call.outcome?)) =
    [(rowOfB, some (.completed answerOfB)), (rowOfA, some (.completed answerOfA))]

theorem BothTold.finds {es : List Event} {t : Traffic} (h : BothTold es t) {p : Path}
    {o : Stuck.Outcome} (finds : Finds 0 es t p o) :
    rowOfB.mountPoint.same p = true ∧ o = .completed answerOfB ∨
      rowOfA.mountPoint.same p = true ∧ o = .completed answerOfA := by
  obtain ⟨⟨l, stuck⟩, admitted, here, found⟩ := finds
  have other : rowOfB ≠ rowOfA := by decide
  have told : ∀ call ∈ t.callsOf 0, (call.client.label, call.outcome?) ∈
      [(rowOfB, some (.completed answerOfB)), (rowOfA, some (.completed answerOfA))] :=
    fun call member => h.told ▸ List.mem_map_of_mem member
  rw [h.asked] at admitted
  simp only [List.mem_cons, Prod.mk.injEq, List.not_mem_nil, or_false] at admitted told
  rcases admitted with ⟨rfl, rfl⟩ | ⟨rfl, rfl⟩ <;> obtain ⟨call, member, label, answer⟩ := found
  · rcases told call member with ⟨-, given⟩ | ⟨elsewhere, -⟩
    · exact .inl ⟨here, Option.some.inj (answer.symm.trans given)⟩
    · exact absurd (label.symm.trans elsewhere) other
  · rcases told call member with ⟨elsewhere, -⟩ | ⟨-, given⟩
    · exact absurd (elsewhere.symm.trans label) other
    · exact .inr ⟨here, Option.some.inj (answer.symm.trans given)⟩

theorem BothTold.finds_unique {es es' : List Event} {t t' : Traffic} (h : BothTold es t)
    (h' : BothTold es' t') (p : Path) (o o' : Stuck.Outcome) (finds : Finds 0 es t p o)
    (finds' : Finds 0 es' t' p o') : o = o' := by
  have apart : ¬ rowOfB.mountPoint.same rowOfA.mountPoint = true := by decide +kernel
  rcases h.finds finds with ⟨here, rfl⟩ | ⟨here, rfl⟩ <;>
    rcases h'.finds finds' with ⟨there, rfl⟩ | ⟨there, rfl⟩
  · rfl
  · exact absurd (Path.same_trans here (Path.same_symm there)) apart
  · exact absurd (Path.same_trans there (Path.same_symm here)) apart
  · rfl

theorem agree_of_two_orders :
    ∃ (es es' : List Event) (v v' : Traffic) (records records' : List Stat.Record),
      Run (Traffic.empty.begin 0 twoWorkers threeRows) es v ∧
      Run (Traffic.empty.begin 0 twoWorkers threeRows) es' v' ∧
      v.records? 0 = some records ∧ v'.records? 0 = some records' ∧
      BothTold es v ∧ BothTold es' v' ∧ records.map (·.label.device) = ["sdb", "sda", "sda"] ∧
      records'.map (·.label.device) = ["sda", "sdb", "sda"] ∧
      Agree twoWorkers threeRows records records' := by
  have before := Run.refl Traffic.empty
  have begun := Step.begin Traffic.empty 0 twoWorkers threeRows
  have asked := ((((Run.refl (Traffic.empty.begin 0 twoWorkers threeRows)).step
    (.consider (i := 0) rfl rfl rfl)).step (.take (i := 0) rfl rfl rfl)).step
    (.consider (i := 0) rfl rfl rfl)).step (.take (i := 0) rfl rfl rfl)
  have first := (((asked.step (.finish (show finish? _ 0 (.answered answerOfB) = some _
    from rfl))).step (.report (k := 0) rfl (show report? _ 1 0 = some _ from rfl))).step
    (.receive (k := 0) rfl rfl)).step (.handIn (k := 0) rfl rfl rfl rfl)
  have both := (((first.step (.finish (show finish? _ 1 (.answered answerOfA) = some _
    from rfl))).step (.report (k := 1) rfl (show report? _ 1 1 = some _ from rfl))).step
    (.receive (k := 1) rfl rfl)).step (.handIn (k := 1) rfl rfl rfl rfl)
  have run := ((both.step (.collect (i := 0) rfl rfl rfl)).step
    (.collect (i := 0) rfl rfl rfl)).step (.close (show close? _ 2 0 = some _ from rfl) rfl)
  have second := (((asked.step (.finish (show finish? _ 1 (.answered answerOfA) = some _
    from rfl))).step (.report (k := 1) rfl (show report? _ 1 1 = some _ from rfl))).step
    (.receive (k := 1) rfl rfl)).step (.handIn (k := 1) rfl rfl rfl rfl)
  have both' := (((second.step (.finish (show finish? _ 0 (.answered answerOfB) = some _
    from rfl))).step (.report (k := 0) rfl (show report? _ 1 0 = some _ from rfl))).step
    (.receive (k := 0) rfl rfl)).step (.handIn (k := 0) rfl rfl rfl rfl)
  have run' := ((both'.step (.collect (i := 0) rfl rfl rfl)).step
    (.collect (i := 0) rfl rfl rfl)).step (.close (show close? _ 2 0 = some _ from rfl) rfl)
  exact ⟨_, _, _, _, _, _, run, run', rfl, rfl, ⟨rfl, rfl⟩, ⟨rfl, rfl⟩, rfl, rfl,
    agree_of_runs before before begun begun run run' rfl rfl
      (BothTold.finds_unique ⟨rfl, rfl⟩ ⟨rfl, rfl⟩)⟩

end Traffic

end MountProbe
