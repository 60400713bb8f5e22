import MountProbe.Proofs.Collector.Found
import MountProbe.Proofs.Gauge.Firsts
import MountProbe.Proofs.Gauge.Mounts

/-! What the series of one mount say together. Records are told apart by the bytes of their mount
points, series by the text. A record that is kept has all its series to itself when the records
that run together to its text are about the same thing as it is, and then there are series of its
values exactly if it says that there are values. Two mounts with one text share their series: then
one can give the values and the other one the error. -/
namespace MountProbe.Gauge

open Traffic (Event Run)

namespace MountMetric

/-- The families with a series for a device, mount point and file system type only if there are
values. -/
def measures : List MountMetric :=
  [size, free, available, files, filesFree]

/-- All families with a series for a device, mount point and file system type. -/
def labelled : List MountMetric :=
  measures ++ [readOnly, deviceError]

theorem values_of_labelled {m : MountMetric} (listed : m ∈ labelled) (r : Stat.Record) :
    m.values r = mountValues r := by
  simp only [labelled, measures, List.cons_append, List.nil_append, List.mem_cons,
    List.not_mem_nil, or_false] at listed
  rcases listed with rfl | rfl | rfl | rfl | rfl | rfl | rfl <;> rfl

theorem isSome_number?_of_measures {m : MountMetric} (listed : m ∈ measures) (r : Stat.Record) :
    (m.number? r).isSome = !r.isDeviceError := by
  have split_on : ∀ number : Stat.Record → Binary64,
      (if r.isDeviceError = true then none else some (number r)).isSome = !r.isDeviceError := by
    intro number
    cases r.isDeviceError <;> rfl
  simp only [measures, List.mem_cons, List.not_mem_nil, or_false] at listed
  rcases listed with rfl | rfl | rfl | rfl | rfl <;> exact split_on _

theorem series_given {m : MountMetric} {records : List Stat.Record} {s : Series}
    (member : s ∈ (m.family records).series) :
    (∃ q ∈ records, m.values q = s.values) ∧
      ∃ q ∈ records, identity (m.values q) = identity s.values ∧ m.number? q = some s.number := by
  rw [family_series, mem_assignAll] at member
  obtain ⟨⟨a, given, values⟩, b, given', text, number⟩ := mem_of_merged? member
  obtain ⟨q, listed, labels, _⟩ := mem_given.mp given
  obtain ⟨q', listed', labels', shown⟩ := mem_given.mp given'
  refine ⟨⟨q, listed, labels.trans values⟩, q', listed', ?_, ?_⟩
  · rw [labels', text]
  · rw [shown, number]

theorem exists_series {m : MountMetric} {records : List Stat.Record} {q : Stat.Record}
    (member : q ∈ records) (shown : (m.number? q).isSome = true) :
    ∃ s ∈ (m.family records).series, identity s.values = identity (m.values q) := by
  obtain ⟨x, number⟩ := Option.isSome_iff_exists.mp shown
  have given : (⟨m.values q, x⟩ : Series) ∈ m.given records :=
    mem_given.mpr ⟨q, member, rfl, number⟩
  have merged : (merged? (identity (m.values q)) (m.given records)).isSome = true := by
    rw [merged?, Option.isSome_map]
    exact List.find?_isSome.mpr ⟨_, given, by simp⟩
  rw [← seriesOf?_assignAll, ← family_series] at merged
  obtain ⟨s, found⟩ := Option.isSome_iff_exists.mp merged
  exact ⟨s, List.mem_of_find?_eq_some found, by simpa using List.find?_some found⟩

end MountMetric

open MountMetric (labelled measures deviceError)

/-- Whatever runs together to the text of the record is about the same thing. -/
def Recognised (records : List Stat.Record) (r : Stat.Record) : Prop :=
  ∀ q ∈ records, identity (mountValues q) = identity (mountValues r) →
    q.label.subject = r.label.subject

section

variable {records : List Stat.Record} {r : Stat.Record}

theorem Recognised.alone (recognised : Recognised records r) (kept : r ∈ firsts records)
    {q : Stat.Record} (kept' : q ∈ firsts records)
    (text : identity (mountValues q) = identity (mountValues r)) : q = r :=
  eq_of_mem_firsts kept' kept (recognised q (mem_of_mem_firsts kept') text)

theorem Recognised.find? (recognised : Recognised records r) (kept : r ∈ firsts records) :
    records.find? (fun q => mountValues q = mountValues r) = some r := by
  obtain ⟨-, before, after, split, none_before⟩ :=
    List.find?_eq_some_iff_append.mp (mem_firsts.mp kept)
  refine List.find?_eq_some_iff_append.mpr ⟨by simp, before, after, split, fun q earlier => ?_⟩
  have listed : q ∈ records := by
    rw [split]
    exact List.mem_append_left _ earlier
  have other : q.label.subject ≠ r.label.subject := by simpa using none_before q earlier
  simpa using fun same => other (recognised q listed (congrArg identity same))

theorem Recognised.mem_series (recognised : Recognised records r) (kept : r ∈ firsts records)
    {m : MountMetric} (listed : m ∈ labelled) (x : Binary64) :
    ⟨mountValues r, x⟩ ∈ (m.family (firsts records)).series ↔ m.number? r = some x := by
  have values := MountMetric.values_of_labelled listed
  constructor
  · intro member
    obtain ⟨-, q, kept', text, number⟩ := MountMetric.series_given member
    rw [values] at text
    rw [← recognised.alone kept kept' text]
    exact number
  · intro number
    rw [← values r]
    refine MountMetric.own_series kept number fun q kept' _ text => ?_
    rw [values, values] at text
    exact recognised.alone kept kept' text

theorem isDeviceError_eq_false_iff
    (flagged : r.deviceError = Binary64.zero ∨ r.deviceError = Binary64.one) :
    r.isDeviceError = false ↔ r.deviceError = Binary64.zero := by
  rcases flagged with flag | flag <;> rw [Stat.Record.isDeviceError, flag] <;> decide +kernel

theorem exists_measure_iff
    (flagged : ∀ q ∈ records, q.deviceError = Binary64.zero ∨ q.deviceError = Binary64.one)
    {m : MountMetric} (listed : m ∈ measures) (text : String) :
    (∃ s ∈ (m.family (firsts records)).series, identity s.values = text) ↔
      ∃ q ∈ firsts records, identity (mountValues q) = text ∧ q.deviceError = Binary64.zero := by
  have values := MountMetric.values_of_labelled (List.mem_append_left _ listed)
  have shown : ∀ q ∈ firsts records,
      ((m.number? q).isSome = true ↔ q.deviceError = Binary64.zero) := by
    intro q kept
    rw [MountMetric.isSome_number?_of_measures listed, Bool.not_eq_true',
      isDeviceError_eq_false_iff (flagged q (mem_of_mem_firsts kept))]
  constructor
  · rintro ⟨s, member, rfl⟩
    obtain ⟨-, q, kept, text, number⟩ := MountMetric.series_given member
    rw [values] at text
    exact ⟨q, kept, text, (shown q kept).mp (by rw [number]; rfl)⟩
  · rintro ⟨q, kept, rfl, fine⟩
    rw [← values q]
    exact MountMetric.exists_series kept ((shown q kept).mpr fine)

theorem deviceError_number (records : List Stat.Record) (text : String) :
    (seriesOf? text (deviceError.family records).series).map Series.number =
      (records.reverse.find? fun q => identity (mountValues q) = text).map
        Stat.Record.deviceError := by
  have given : deviceError.given records =
      records.map fun q => ⟨mountValues q, q.deviceError⟩ := by
    rw [MountMetric.given, ← List.filterMap_eq_map]
    rfl
  rw [MountMetric.family_series, seriesOf?_assignAll, merged?_number, given, ← List.map_reverse,
    seriesOf?, List.find?_map, Option.map_map]
  rfl

end

/-- What the series say of the records that are kept. -/
structure Spelled (records : List Stat.Record) : Prop where
  kept : ∀ m ∈ labelled, ∀ s ∈ (m.family (firsts records)).series,
    ∃ r ∈ firsts records, mountValues r = s.values
  first : ∀ r ∈ firsts records, Recognised records r →
    records.find? (fun q => mountValues q = mountValues r) = some r
  numbers : ∀ r ∈ firsts records, Recognised records r → ∀ m ∈ labelled, ∀ x,
    (⟨mountValues r, x⟩ ∈ (m.family (firsts records)).series ↔ m.number? r = some x)
  present : ∀ r ∈ firsts records, Recognised records r → ∀ m ∈ measures,
    ((∃ x, ⟨mountValues r, x⟩ ∈ (m.family (firsts records)).series) ↔
      ⟨mountValues r, Binary64.zero⟩ ∈ (deviceError.family (firsts records)).series)
  /-- A text has values if one of the kept records that run together to it has. -/
  present_text : ∀ m ∈ measures, ∀ text,
    ((∃ s ∈ (m.family (firsts records)).series, identity s.values = text) ↔
      ∃ q ∈ firsts records, identity (mountValues q) = text ∧ q.deviceError = Binary64.zero)
  /-- A text has an error if the last kept record that runs together to it has. -/
  error_text : ∀ text,
    (seriesOf? text (deviceError.family (firsts records)).series).map Series.number =
      ((firsts records).reverse.find? fun q => identity (mountValues q) = text).map
        Stat.Record.deviceError

/-- The numbers of a mount are those of its first record, and its values are there exactly if the
error is not, when no other mount of the scrape runs together to its text. -/
theorem spelled_of_run {g : Stuck.Registry} {es : List Event} {t : Traffic} {i : Nat}
    {records : List Stat.Record} (run : Run ⟨⟨g, []⟩, [], []⟩ es t)
    (said : t.records? i = some records) : Spelled records where
  kept m listed s member := by
    obtain ⟨⟨q, kept, values⟩, -⟩ := MountMetric.series_given member
    exact ⟨q, kept, by rw [← values, MountMetric.values_of_labelled listed]⟩
  first _ kept recognised := recognised.find? kept
  numbers _ kept recognised _ listed := recognised.mem_series kept listed
  present r kept recognised m listed := by
    have flagged := Traffic.deviceError_of_run run said (mem_of_mem_firsts kept)
    have error : deviceError ∈ labelled := by simp [labelled]
    rw [exists_congr (recognised.mem_series kept (List.mem_append_left _ listed)),
      recognised.mem_series kept error, ← Option.isSome_iff_exists,
      MountMetric.isSome_number?_of_measures listed, Bool.not_eq_true',
      isDeviceError_eq_false_iff flagged]
    exact Option.some.injEq _ _ ▸ Iff.rfl
  present_text _ listed := exists_measure_iff
    (fun _ member => Traffic.deviceError_of_run run said member) listed
  error_text := deviceError_number (firsts records)

def threeSpellings : List Mount.Label :=
  [Traffic.nas ⟨[47, 255]⟩, Traffic.nas ⟨[47, 254]⟩, Traffic.nas ⟨[47, 97]⟩]

def threeFound : List Stat.Record :=
  [.ofCounts (Traffic.nas ⟨[47, 255]⟩) ⟨512, 8, 4, 4, 9, 3⟩,
    .failed (Traffic.nas ⟨[47, 254]⟩) "down",
    .ofCounts (Traffic.nas ⟨[47, 97]⟩) ⟨512, 80, 40, 40, 90, 30⟩]

theorem scrape_of_spellings :
    ∃ (es : List Event) (t : Traffic), Run .empty es t ∧ t.records? 0 = some threeFound := by
  have begun := (Run.refl .empty).step (.begin _ 0 Traffic.everything threeSpellings)
  have first := (begun.step (.consider (i := 0) rfl rfl rfl)).step (.take (i := 0) rfl rfl rfl)
  have first_in := (((first.step
    (.finish (show Traffic.finish? _ 0 (.answered (.ok ⟨512, 8, 4, 4, 9, 3⟩)) = some _
      from rfl))).step (.report (k := 0) rfl (show Traffic.report? _ 1 0 = some _ from rfl))).step
    (.receive (k := 0) rfl rfl)).step (.handIn (k := 0) rfl rfl rfl rfl)
  have second := (first_in.step (.consider (i := 0) rfl rfl rfl)).step (.take (i := 0) rfl rfl rfl)
  have second_in := (((second.step
    (.finish (show Traffic.finish? _ 1 (.answered (.error (.fsStats ⟨[47, 254]⟩ "down"))) = some _
      from rfl))).step (.report (k := 1) rfl (show Traffic.report? _ 2 1 = some _ from rfl))).step
    (.receive (k := 1) rfl rfl)).step (.handIn (k := 1) rfl rfl rfl rfl)
  have third := (second_in.step (.consider (i := 0) rfl rfl rfl)).step (.take (i := 0) rfl rfl rfl)
  have third_in := (((third.step
    (.finish (show Traffic.finish? _ 2 (.answered (.ok ⟨512, 80, 40, 40, 90, 30⟩)) = some _
      from rfl))).step (.report (k := 2) rfl (show Traffic.report? _ 3 2 = some _ from rfl))).step
    (.receive (k := 2) rfl rfl)).step (.handIn (k := 2) rfl rfl rfl rfl)
  have collected := ((third_in.step (.collect (i := 0) rfl rfl rfl)).step
    (.collect (i := 0) rfl rfl rfl)).step (.collect (i := 0) rfl rfl rfl)
  have closed := collected.step (.close (show Traffic.close? _ 4 0 = some _ from rfl) rfl)
  exact ⟨_, _, closed, rfl⟩

theorem spelled_of_three :
    ∃ (es : List Event) (t : Traffic), Run .empty es t ∧ t.records? 0 = some threeFound ∧
      Spelled threeFound ∧ ∃ r ∈ firsts threeFound, Recognised threeFound r ∧
        ⟨["nas", "/a", "nfs"], r.size⟩ ∈ (MountMetric.size.family (firsts threeFound)).series := by
  obtain ⟨es, t, run, records⟩ := scrape_of_spellings
  have spelled := spelled_of_run run records
  have all : firsts threeFound = threeFound := by decide +kernel
  have recognised : Recognised threeFound
      (.ofCounts (Traffic.nas ⟨[47, 97]⟩) ⟨512, 80, 40, 40, 90, 30⟩) := by
    unfold Recognised
    decide +kernel
  have kept : Stat.Record.ofCounts (Traffic.nas ⟨[47, 97]⟩) ⟨512, 80, 40, 40, 90, 30⟩ ∈
      firsts threeFound := by
    rw [all]
    simp [threeFound]
  have shown := (spelled.numbers _ kept recognised .size (by simp [labelled, measures]) _).mpr rfl
  have text : mountValues (.ofCounts (Traffic.nas ⟨[47, 97]⟩) ⟨512, 80, 40, 40, 90, 30⟩) =
      ["nas", "/a", "nfs"] := by decide +kernel
  rw [text] at shown
  exact ⟨es, t, run, records, spelled, _, kept, recognised, shown⟩

/-- The values of a text can be those of one mount and its error that of another one. -/
theorem values_beside_an_error :
    (¬ ∀ (es : List Event) (t : Traffic) (i : Nat) (records : List Stat.Record),
      Run .empty es t → t.records? i = some records → ∀ r ∈ records,
      records.find? (fun q => mountValues q = mountValues r) = some r → ∀ m ∈ labelled, ∀ x,
      ⟨mountValues r, x⟩ ∈ (m.family (firsts records)).series → m.number? r = some x) ∧
    ¬ ∀ (es : List Event) (t : Traffic) (i : Nat) (records : List Stat.Record),
      Run .empty es t → t.records? i = some records → ∀ r ∈ records, ∀ m ∈ measures, ∀ x,
      ⟨mountValues r, x⟩ ∈ (m.family (firsts records)).series →
      ⟨mountValues r, Binary64.zero⟩ ∈ (deviceError.family (firsts records)).series := by
  obtain ⟨es, t, run, records⟩ := scrape_of_spellings
  constructor
  · intro claim
    have told := claim es t 0 _ run records _ (List.mem_cons_self ..) (by decide +kernel)
      deviceError (by simp [labelled]) Binary64.one (by decide +kernel)
    exact absurd told (by decide +kernel)
  · intro claim
    have fine := claim es t 0 _ run records _ (List.mem_cons_self ..) .size
      (List.mem_cons_self ..) (.ofNat 4096) (by decide +kernel)
    exact absurd fine (by decide +kernel)

end MountProbe.Gauge
