import MountProbe.Proofs.Collector.Records

namespace MountProbe

namespace Stat.Record

theorem relabel_ofOutcome (l m : Mount.Label) (o : Stuck.Outcome) :
    (ofOutcome l o).relabel m = ofOutcome m o := by
  unfold ofOutcome
  split <;> rfl

theorem mountPoint_ofOutcome (l : Mount.Label) (o : Stuck.Outcome) :
    (ofOutcome l o).mountPoint = l.mountPoint :=
  mountPoint_of_row (row_ofOutcome l o)

theorem deviceError_ofOutcome (l : Mount.Label) (o : Stuck.Outcome) :
    (ofOutcome l o).deviceError = Binary64.zero ∨ (ofOutcome l o).deviceError = Binary64.one := by
  unfold ofOutcome
  split
  · exact .inl rfl
  · exact .inr rfl
  · exact .inr rfl

end Stat.Record

theorem Mount.splitRepeated_filter (seen : List Path) (ms : List Label) (p : Path) :
    (splitRepeated seen ms).1.filter (·.mountPoint.same p) ++
        (splitRepeated seen ms).2.filter (·.mountPoint.same p) =
      ms.filter (·.mountPoint.same p) := by
  induction ms generalizing seen with
  | nil => rfl
  | cons m rest ih =>
    simp only [splitRepeated]
    split
    · rename_i known
      by_cases here : m.mountPoint.same p = true
      · -- A row before this one is on the place, so none of the first rows after it is.
        have none_first : (splitRepeated seen rest).1.filter (·.mountPoint.same p) = [] := by
          refine List.filter_eq_nil_iff.mpr fun l first there => ?_
          obtain ⟨q, before, same⟩ := List.any_eq_true.mp known
          exact splitRepeated_unseen seen rest l first q before
            (Path.same_trans same (Path.same_trans here (Path.same_symm there)))
        have later := ih seen
        rw [none_first, List.nil_append] at later
        simp [none_first, here, later]
      · simpa [here] using ih seen
    · by_cases here : m.mountPoint.same p = true <;> simpa [here] using ih (m.mountPoint :: seen)

namespace Traffic

/-- What a cycle finds out about a place: that it is stuck already, or what the call comes to that
its worker makes. -/
def Finds (i : Nat) (es : List Event) (t : Traffic) (p : Path) (o : Stuck.Outcome) : Prop :=
  ∃ a ∈ admissions i es, a.1.mountPoint.same p = true ∧
    if a.2 then o = .timedOut
    else ∃ call ∈ t.callsOf i, call.client.label = a.1 ∧ call.outcome? = some o

theorem Finds.of_same {i : Nat} {es : List Event} {t : Traffic} {p q : Path} {o : Stuck.Outcome}
    (h : Finds i es t p o) (same : p.same q = true) : Finds i es t q o := by
  obtain ⟨a, admitted, here, found⟩ := h
  exact ⟨a, admitted, Path.same_trans here same, found⟩

section

variable {i now : Nat} {c : Collector} {mounts : List Mount.Label} {es : List Event} {cyc : Cycle}
  {t : Traffic}

theorem Course.result_of (course : Course i (.start now c mounts) es cyc)
    (done : cyc.pool.isDone = true) (handed : HandsIn i es t) {l : Mount.Label}
    (first : l ∈ (Mount.splitRepeated [] (c.accepted mounts)).1) :
    ∃ o, Finds i es t l.mountPoint o ∧ Stat.Record.ofOutcome l o ∈ cyc.pool.results := by
  obtain ⟨looked_at, _, at_work, results⟩ := course.of_isDone done
  rw [← looked_at] at first
  obtain ⟨⟨m, stuck⟩, admitted, rfl⟩ := List.mem_map.mp first
  cases stuck with
  | true =>
    refine ⟨.timedOut, ⟨_, admitted, Path.same_refl _, rfl⟩, ?_⟩
    refine results.mem_iff.mpr (List.mem_append_left _ ?_)
    exact List.mem_map.mpr ⟨(m, true), List.mem_filter.mpr ⟨admitted, rfl⟩, rfl⟩
  | false =>
    have dispatched : m ∈ (Pool.finished (poolEvents i es)).map (·.1) := by
      refine at_work.mem_iff.mp ?_
      exact List.mem_map.mpr ⟨(m, false), List.mem_filter.mpr ⟨admitted, rfl⟩, rfl⟩
    obtain ⟨⟨m', r⟩, finished, rfl⟩ := List.mem_map.mp dispatched
    obtain ⟨call, mine, label, o, told, same⟩ := handed _ _ finished
    refine ⟨o, ⟨_, admitted, Path.same_refl _, call, mine, label, told⟩, ?_⟩
    rw [← same]
    exact results.mem_iff.mpr (List.mem_append_right _ (List.mem_map.mpr ⟨_, finished, rfl⟩))

/-- What a scrape says in the end: on each place the accepted rows in table order, all with what was
found out about the place, and nothing anywhere else. -/
structure InTableOrder (c : Collector) (mounts : List Mount.Label) (i : Nat) (es : List Event)
    (t : Traffic) (records : List Stat.Record) : Prop where
  on_place : ∀ l ∈ c.accepted mounts, ∃ o, Finds i es t l.mountPoint o ∧
    records.filter (·.mountPoint.same l.mountPoint) =
      ((c.accepted mounts).filter (·.mountPoint.same l.mountPoint)).map
        (Stat.Record.ofOutcome · o)
  accepted : ∀ r ∈ records, ∃ l ∈ c.accepted mounts, l.mountPoint.same r.mountPoint = true

theorem shared_on {results : List Stat.Record} {p : Path} {l : Mount.Label} {o : Stuck.Outcome}
    (only : results.filter (·.mountPoint.same p) = [.ofOutcome l o])
    (repeated : List Mount.Label) :
    (Stat.Record.shared results repeated).filter (·.mountPoint.same p) =
      (repeated.filter (·.mountPoint.same p)).map (Stat.Record.ofOutcome · o) := by
  induction repeated with
  | nil => rfl
  | cons m rest ih =>
    simp only [Stat.Record.shared] at ih ⊢
    have same_place : ∀ r : Stat.Record, (r.relabel m).mountPoint = m.mountPoint := fun _ => rfl
    by_cases here : m.mountPoint.same p = true
    · have found : results.find? (fun r => r.mountPoint.same m.mountPoint) =
          some (.ofOutcome l o) := by
        have alike : (fun r : Stat.Record => r.mountPoint.same m.mountPoint) =
            fun r => r.mountPoint.same p := by
          funext r
          exact Path.same_right here _
        rw [alike, ← List.head?_filter, only]
        rfl
      rw [List.filterMap_cons, found, Option.map_some, List.filter_cons, same_place, if_pos here,
        ih, List.filter_cons, if_pos here, List.map_cons, Stat.Record.relabel_ofOutcome]
    · rw [List.filterMap_cons, List.filter_cons, if_neg here, ← ih]
      split
      · rfl
      · rename_i r given
        obtain ⟨b, _, rfl⟩ := Option.map_eq_some_iff.mp given
        rw [List.filter_cons, same_place, if_neg here]

theorem Course.inTableOrder (course : Course i (.start now c mounts) es cyc)
    (handed : HandsIn i es t) {records : List Stat.Record} (ended : cyc.records = some records) :
    InTableOrder c mounts i es t records := by
  obtain ⟨done, all⟩ := course.ended records ended
  have repeated : cyc.repeated = (Mount.splitRepeated [] (c.accepted mounts)).2 := course.repeated
  constructor
  · intro l accepted
    obtain ⟨m, first, same⟩ := covered_of_accepted accepted
    obtain ⟨o, finds, result⟩ := course.result_of done handed first
    refine ⟨o, finds.of_same same, ?_⟩
    have only : cyc.pool.results.filter (·.mountPoint.same l.mountPoint) = [.ofOutcome m o] :=
      (course.results_apart done handed).filter_same result
        (by rw [Stat.Record.mountPoint_ofOutcome]; exact same)
    have first_only := (Mount.splitRepeated_apart [] (c.accepted mounts)).filter_same first same
    rw [all, List.filter_append, only, shared_on only, repeated,
      ← Mount.splitRepeated_filter [] (c.accepted mounts) l.mountPoint, List.map_append, first_only]
    rfl
  · intro r member
    rw [all] at member
    rcases List.mem_append.mp member with own | shared
    · have row := (course.results_rows done handed).mem_iff.mp (List.mem_map_of_mem own)
      obtain ⟨m, first, same⟩ := List.mem_map.mp row
      refine ⟨m, (Mount.splitRepeated_perm [] _).mem_iff.mp (List.mem_append_left _ first), ?_⟩
      rw [Stat.Record.mountPoint_of_row same.symm]
      exact Path.same_refl _
    · obtain ⟨m, later, found⟩ := List.mem_filterMap.mp shared
      obtain ⟨b, _, rfl⟩ := Option.map_eq_some_iff.mp found
      rw [repeated] at later
      exact ⟨m, (Mount.splitRepeated_perm [] _).mem_iff.mp (List.mem_append_right _ later),
        Path.same_refl _⟩

theorem InTableOrder.eq_ofOutcome {records : List Stat.Record}
    (h : InTableOrder c mounts i es t records) {r : Stat.Record} (member : r ∈ records) :
    ∃ l ∈ c.accepted mounts, ∃ o, Finds i es t l.mountPoint o ∧ r = .ofOutcome l o := by
  obtain ⟨l, accepted, same⟩ := h.accepted r member
  obtain ⟨o, finds, on_place⟩ := h.on_place l accepted
  have here : r ∈ records.filter (·.mountPoint.same l.mountPoint) :=
    List.mem_filter.mpr ⟨member, Path.same_symm same⟩
  rw [on_place] at here
  obtain ⟨m, there, rfl⟩ := List.mem_map.mp here
  obtain ⟨accepted', same'⟩ := List.mem_filter.mp there
  exact ⟨m, accepted', o, finds.of_same (Path.same_symm same'), rfl⟩

end

theorem begun_of_run {g : Stuck.Registry} {es : List Event} {t : Traffic} {i : Nat}
    (run : Run ⟨⟨g, []⟩, [], []⟩ es t) (below : i < t.cycles.length) :
    ∃ (bs fs : List Event) (s u : Traffic) (now : Nat) (c : Collector)
      (mounts : List Mount.Label), Run ⟨⟨g, []⟩, [], []⟩ bs s ∧ s.cycles.length = i ∧
        Step s (.began now c mounts) u ∧ Run u fs t := by
  induction run with
  | refl => cases below
  | @step v w es e run step ih =>
    by_cases before : i < v.cycles.length
    · obtain ⟨bs, fs, s, u, now, c, mounts, first, here, begun, rest⟩ := ih before
      exact ⟨bs, _, s, u, now, c, mounts, first, here, begun, rest.step step⟩
    · cases e with
      | began now c mounts =>
        have grown : w.cycles.length = v.cycles.length + 1 := by
          cases step
          simp
        exact ⟨_, [], v, w, now, c, mounts, run, by omega, step, .refl w⟩
      | _ =>
        have same := step_cycles_length_eq step (by simp)
        omega

theorem inTableOrder_of_run {g : Stuck.Registry} {bs es : List Event} {t u v : Traffic}
    {now : Nat} {c : Collector} {mounts : List Mount.Label} {records : List Stat.Record}
    (before : Run ⟨⟨g, []⟩, [], []⟩ bs t) (begun : Step t (.began now c mounts) u)
    (run : Run u es v) (said : v.records? t.cycles.length = some records) :
    InTableOrder c mounts t.cycles.length es v records := by
  have orderly : Orderly t := (orderly_start g).run before
  obtain ⟨cyc, cycle, course, _⟩ := (orderly.begun begun).run run
  rw [records?, cycle] at said
  exact course.inTableOrder (handsIn_run _ run) said

theorem deviceError_of_run {g : Stuck.Registry} {es : List Event} {t : Traffic} {i : Nat}
    {records : List Stat.Record} (run : Run ⟨⟨g, []⟩, [], []⟩ es t)
    (said : t.records? i = some records) {r : Stat.Record} (member : r ∈ records) :
    r.deviceError = Binary64.zero ∨ r.deviceError = Binary64.one := by
  obtain ⟨cyc, cycle, _⟩ := Option.bind_eq_some_iff.mp said
  have below := (List.getElem?_eq_some_iff.mp cycle).1
  obtain ⟨bs, fs, s, u, now, c, mounts, first, rfl, begun, rest⟩ := begun_of_run run below
  obtain ⟨l, _, o, _, rfl⟩ := (inTableOrder_of_run first begun rest said).eq_ofOutcome member
  exact Stat.Record.deviceError_ofOutcome l o

end Traffic

end MountProbe
