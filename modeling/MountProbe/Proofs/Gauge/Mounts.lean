import MountProbe.Gauge.Mounts
import MountProbe.Proofs.Collector.InTurn
import MountProbe.Proofs.Gauge.Series

/-! Which mounts have series of their own. Label values are told apart only by the text that they
run together to, and so are mounts: one whose text no other mount has is shown as it is, and mounts
with one text share a series. -/
namespace MountProbe.Gauge

open Traffic (Event Run)

namespace MountMetric

/-- What the records give a metric, in order. -/
def given (m : MountMetric) (records : List Stat.Record) : List Series :=
  records.filterMap fun r => (m.number? r).map (Series.mk (m.values r))

theorem mem_given {m : MountMetric} {records : List Stat.Record} {s : Series} :
    s ∈ m.given records ↔
      ∃ r ∈ records, m.values r = s.values ∧ m.number? r = some s.number := by
  rw [given, List.mem_filterMap]
  refine exists_congr fun r => and_congr_right fun _ => ?_
  cases m.number? r <;> cases s <;> simp

theorem foldl_observe (m : MountMetric) (records : List Stat.Record) (f : Family) :
    (records.foldl m.observe f).series =
      (m.given records).foldl (fun series s => assign s.values s.number series) f.series := by
  induction records generalizing f with
  | nil => rfl
  | cons r rest ih =>
    rw [List.foldl_cons, ih]
    cases h : m.number? r <;> simp [given, observe, h, Family.put]

theorem family_series (m : MountMetric) (records : List Stat.Record) :
    (m.family records).series = assignAll (m.given records) :=
  m.foldl_observe records _

/-- What series a metric has for records. -/
structure Shows (m : MountMetric) (records : List Stat.Record) : Prop where
  distinct : Distinct (m.family records).series
  /-- The first record of a text gives the label values and the last one gives the number. -/
  contents : ∀ s, s ∈ (m.family records).series ↔
    merged? (identity s.values) (m.given records) = some s
  own : ∀ r ∈ records, ∀ x, m.number? r = some x →
    (∀ q ∈ records, (m.number? q).isSome = true →
      identity (m.values q) = identity (m.values r) → q = r) →
    ⟨m.values r, x⟩ ∈ (m.family records).series
  shared : ∀ q ∈ records, ∀ r ∈ records, ∀ x y, m.number? q = some x → m.number? r = some y →
    m.values q ≠ m.values r → identity (m.values q) = identity (m.values r) →
    ¬ (⟨m.values q, x⟩ ∈ (m.family records).series ∧ ⟨m.values r, y⟩ ∈ (m.family records).series)

theorem own_series {m : MountMetric} {records : List Stat.Record} {r : Stat.Record} {x : Binary64}
    (member : r ∈ records) (number : m.number? r = some x)
    (alone : ∀ q ∈ records, (m.number? q).isSome = true →
      identity (m.values q) = identity (m.values r) → q = r) :
    ⟨m.values r, x⟩ ∈ (m.family records).series := by
  rw [family_series, mem_assignAll]
  refine merged?_of_only (mem_given.mpr ⟨r, member, rfl, number⟩) fun s here same => ?_
  obtain ⟨q, listed, values, shown⟩ := mem_given.mp here
  cases alone q listed (by simp [shown]) (by rw [values, same])
  rw [number] at shown
  cases s
  simp_all

theorem shows (m : MountMetric) (records : List Stat.Record) : Shows m records where
  distinct := by
    rw [family_series]
    exact distinct_assignAll _
  contents s := by
    rw [family_series]
    exact mem_assignAll _ s
  own _ member _ number alone := own_series member number alone
  shared q _ r _ x y _ _ different same both := by
    have distinct := distinct_assignAll (m.given records)
    rw [← family_series] at distinct
    have first := (mem_iff_of_distinct distinct _).mp both.1
    have second := (mem_iff_of_distinct distinct _).mp both.2
    rw [show identity (Series.mk (m.values r) y).values = _ from same.symm, first] at second
    exact different (congrArg Series.values (Option.some.inj second))

end MountMetric

open MountMetric (Shows shows)

/-- Of the records of a scrape the first of each mount are shown, in every family. A record has its
own number under its own label values when no other one that is shown there runs together to the
same text, and of two that do one is missing. -/
theorem each_family_shows (records : List Stat.Record) {m : MountMetric}
    (listed : m ∈ MountMetric.all) :
    m.family (firsts records) ∈ (ofRecords records).families ∧ Shows m (firsts records) :=
  ⟨List.mem_map_of_mem listed, shows m _⟩

theorem each_family_shows_two :
    let r := Stat.Record.ofCounts (Traffic.nas ⟨[47, 97]⟩) ⟨512, 8, 4, 4, 9, 3⟩
    let s := Stat.Record.ofCounts (Traffic.nas ⟨[47, 98]⟩) ⟨512, 80, 40, 40, 90, 30⟩
    MountMetric.size ∈ MountMetric.all ∧
      MountMetric.size.family (firsts [r, s]) ∈ (ofRecords [r, s]).families ∧
      ⟨["nas", "/a", "nfs"], .ofNat 4096⟩ ∈ (MountMetric.size.family (firsts [r, s])).series ∧
      ⟨["nas", "/b", "nfs"], .ofNat 40960⟩ ∈ (MountMetric.size.family (firsts [r, s])).series := by
  intro r s
  have listed : MountMetric.size ∈ MountMetric.all := List.mem_cons_self
  obtain ⟨family, shows⟩ := each_family_shows [r, s] listed
  have both : firsts [r, s] = [r, s] := by decide +kernel
  have apart : identity (MountMetric.size.values r) ≠ identity (MountMetric.size.values s) := by
    decide +kernel
  have seen_r : Series.mk ["nas", "/a", "nfs"] (.ofNat 4096) =
      ⟨MountMetric.size.values r, r.size⟩ := by decide +kernel
  have seen_s : Series.mk ["nas", "/b", "nfs"] (.ofNat 40960) =
      ⟨MountMetric.size.values s, s.size⟩ := by decide +kernel
  rw [both] at family shows ⊢
  rw [seen_r, seen_s]
  refine ⟨listed, family, shows.own r (by simp) _ rfl ?_, shows.own s (by simp) _ rfl ?_⟩
  · simpa using fun _ same => absurd same (Ne.symm apart)
  · simpa using fun _ same => absurd same apart

def volume : Mount.Label :=
  { device := "srv:/vol", mountPoint := ⟨[47, 100, 47, 120]⟩, fsType := "nfs" }

def volumeInside : Mount.Label :=
  { device := "srv:/vol/d", mountPoint := ⟨[47, 120]⟩, fsType := "nfs" }

theorem scrape_of_volumes (a b : Stat.Counts) :
    ∃ (es : List Event) (t : Traffic), Run .empty es t ∧
      t.records? 0 = some [.ofCounts volume a, .ofCounts volumeInside b] := by
  have begun := (Run.refl .empty).step (.begin _ 0 Traffic.everything [volume, volumeInside])
  have first := (begun.step (.consider (i := 0) rfl rfl rfl)).step (.take (i := 0) rfl rfl rfl)
  have first_back := (first.step
    (.finish (show Traffic.finish? _ 0 (.answered (.ok a)) = some _ from rfl))).step
    (.report (k := 0) rfl (show Traffic.report? _ 1 0 = some _ from rfl))
  have first_in := (first_back.step (.receive (k := 0) rfl rfl)).step
    (.handIn (k := 0) rfl rfl rfl rfl)
  have second := (first_in.step (.consider (i := 0) rfl rfl rfl)).step (.take (i := 0) rfl rfl rfl)
  have second_back := (second.step
    (.finish (show Traffic.finish? _ 1 (.answered (.ok b)) = some _ from rfl))).step
    (.report (k := 1) rfl (show Traffic.report? _ 2 1 = some _ from rfl))
  have second_in := (second_back.step (.receive (k := 1) rfl rfl)).step
    (.handIn (k := 1) rfl rfl rfl rfl)
  have collected := (second_in.step (.collect (i := 0) rfl rfl rfl)).step
    (.collect (i := 0) rfl rfl rfl)
  have closed := collected.step (.close (show Traffic.close? _ 3 0 = some _ from rfl) rfl)
  exact ⟨_, _, closed, rfl⟩

/-- Two mounts of one scrape share a series, under the label values of the first. -/
theorem mounts_share_a_series :
    ¬ ∀ (es : List Event) (t : Traffic) (i : Nat) (records : List Stat.Record),
      Run .empty es t → t.records? i = some records →
      ∀ r ∈ records, ∀ s ∈ records, mountValues r ≠ mountValues s →
      ∀ m ∈ [MountMetric.deviceError, MountMetric.readOnly], ∀ x, m.number? s = some x →
        ⟨m.values s, x⟩ ∈ (m.family (firsts records)).series := by
  intro claim
  obtain ⟨es, t, run, records⟩ := scrape_of_volumes ⟨512, 8, 4, 4, 9, 3⟩ ⟨512, 80, 40, 40, 90, 30⟩
  have missing := claim es t 0 _ run records _ (List.mem_cons_self ..) _
    (List.mem_cons_of_mem _ (List.mem_cons_self ..)) (by decide) .deviceError
    (List.mem_cons_self ..) _ rfl
  exact absurd missing (by decide +kernel)

end MountProbe.Gauge
