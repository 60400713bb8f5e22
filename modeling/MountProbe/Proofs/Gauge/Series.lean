import MountProbe.Gauge.Family

namespace MountProbe.Gauge

/-- The first series that runs together to the text. -/
def seriesOf? (id : String) (series : List Series) : Option Series :=
  series.find? fun s => identity s.values = id

theorem seriesOf?_cons_of_ne {id : String} {a : Series} (other : identity a.values ≠ id)
    (rest : List Series) : seriesOf? id (a :: rest) = seriesOf? id rest := by
  simp [seriesOf?, other]

theorem seriesOf?_cons_of_eq {id : String} {a : Series} (same : identity a.values = id)
    (rest : List Series) : seriesOf? id (a :: rest) = some a := by
  simp [seriesOf?, same]

theorem seriesOf?_concat (id : String) (series : List Series) (s : Series) :
    seriesOf? id (series ++ [s]) = (seriesOf? id series).or (seriesOf? id [s]) :=
  List.find?_append

theorem seriesOf?_of_only {series : List Series} {s : Series} (member : s ∈ series)
    (only : ∀ a ∈ series, identity a.values = identity s.values → a = s) :
    seriesOf? (identity s.values) series = some s := by
  have found : (seriesOf? (identity s.values) series).isSome = true :=
    List.find?_isSome.mpr ⟨s, member, by simp⟩
  obtain ⟨a, first⟩ := Option.isSome_iff_exists.mp found
  have same : identity a.values = identity s.values := by simpa using List.find?_some first
  rw [first, only a (List.mem_of_find?_eq_some first) same]

def Distinct (series : List Series) : Prop :=
  series.Pairwise fun a b => identity a.values ≠ identity b.values

theorem mem_iff_of_distinct {series : List Series} (h : Distinct series) (s : Series) :
    s ∈ series ↔ seriesOf? (identity s.values) series = some s := by
  induction series with
  | nil => simp [seriesOf?]
  | cons a rest ih =>
    obtain ⟨head, tail⟩ := List.pairwise_cons.mp h
    by_cases same : identity a.values = identity s.values
    · have elsewhere : s ∉ rest := fun member => head s member same
      simp [seriesOf?, same, elsewhere, eq_comm]
    · have other : s ≠ a := by
        rintro rfl
        exact same rfl
      have skip : seriesOf? (identity s.values) (a :: rest) = seriesOf? (identity s.values) rest :=
        seriesOf?_cons_of_ne same rest
      rw [skip, ← ih tail, List.mem_cons, or_iff_right other]

theorem seriesOf?_assign (id : String) (values : List String) (number : Binary64)
    (series : List Series) :
    seriesOf? id (assign values number series) =
      if identity values = id then
        some ⟨((seriesOf? id series).map Series.values).getD values, number⟩
      else seriesOf? id series := by
  induction series with
  | nil => by_cases same : identity values = id <;> simp [assign, seriesOf?, same]
  | cons a rest ih =>
    unfold assign
    split
    · rename_i meets
      by_cases same : identity values = id <;> simp [seriesOf?, meets, same]
    · rename_i apart
      by_cases here : identity a.values = id
      · have other : identity values ≠ id := by
          rintro rfl
          exact apart here
        simp [seriesOf?, here, other]
      · rw [seriesOf?_cons_of_ne here, seriesOf?_cons_of_ne here, ih]

theorem mem_assign {values : List String} {number : Binary64} {series : List Series} {s : Series}
    (member : s ∈ assign values number series) :
    identity s.values = identity values ∨ s ∈ series := by
  induction series with
  | nil => simp_all [assign]
  | cons a rest ih =>
    unfold assign at member
    split at member
    · rename_i meets
      rcases List.mem_cons.mp member with rfl | later
      · exact .inl meets
      · exact .inr (List.mem_cons_of_mem _ later)
    · rcases List.mem_cons.mp member with rfl | later
      · exact .inr List.mem_cons_self
      · exact (ih later).imp id (List.mem_cons_of_mem _)

theorem distinct_assign {series : List Series} (h : Distinct series) (values : List String)
    (number : Binary64) : Distinct (assign values number series) := by
  induction series with
  | nil => exact List.pairwise_singleton _ _
  | cons a rest ih =>
    obtain ⟨head, tail⟩ := List.pairwise_cons.mp h
    unfold assign
    split
    · exact List.pairwise_cons.mpr ⟨head, tail⟩
    · rename_i apart
      refine List.pairwise_cons.mpr ⟨fun s member => ?_, ih tail⟩
      rcases mem_assign member with same | before
      · rw [same]
        exact apart
      · exact head s before

def assignAll (given : List Series) : List Series :=
  given.foldl (fun series s => assign s.values s.number series) []

theorem assignAll_concat (given : List Series) (s : Series) :
    assignAll (given ++ [s]) = assign s.values s.number (assignAll given) := by
  simp [assignAll]

theorem distinct_assignAll (given : List Series) : Distinct (assignAll given) := by
  rw [← given.reverse_reverse]
  induction given.reverse with
  | nil => exact .nil
  | cons s before ih =>
    rw [List.reverse_cons, assignAll_concat]
    exact distinct_assign ih _ _

/-- Of what runs together to a text: the values of the first one and the number of the last one. -/
def merged? (id : String) (given : List Series) : Option Series :=
  (seriesOf? id given).map fun first =>
    ⟨first.values, ((seriesOf? id given.reverse).getD first).number⟩

theorem merged?_values (id : String) (given : List Series) :
    (merged? id given).map Series.values = (seriesOf? id given).map Series.values := by
  simp [merged?, Function.comp_def]

theorem seriesOf?_isSome_reverse (id : String) (given : List Series) :
    (seriesOf? id given.reverse).isSome = (seriesOf? id given).isSome := by
  rw [Bool.eq_iff_iff]
  simp [seriesOf?]

theorem merged?_number (id : String) (given : List Series) :
    (merged? id given).map Series.number = (seriesOf? id given.reverse).map Series.number := by
  have both := seriesOf?_isSome_reverse id given
  cases first : seriesOf? id given with
  | none =>
    have none_last : seriesOf? id given.reverse = none := by simpa [first] using both
    simp [merged?, first, none_last]
  | some a =>
    obtain ⟨b, last⟩ := Option.isSome_iff_exists.mp (both.trans (by rw [first]; rfl))
    simp [merged?, first, last]

theorem mem_of_merged? {id : String} {given : List Series} {s : Series}
    (merged : merged? id given = some s) :
    (∃ a ∈ given, a.values = s.values) ∧
      ∃ b ∈ given, identity b.values = id ∧ b.number = s.number := by
  have values := merged?_values id given
  have number := merged?_number id given
  rw [merged, Option.map_some] at values number
  obtain ⟨a, first, same_values⟩ := Option.map_eq_some_iff.mp values.symm
  obtain ⟨b, last, same_number⟩ := Option.map_eq_some_iff.mp number.symm
  have text : identity b.values = id := by simpa using List.find?_some last
  exact ⟨⟨a, List.mem_of_find?_eq_some first, same_values⟩,
    b, List.mem_reverse.mp (List.mem_of_find?_eq_some last), text, same_number⟩

theorem merged?_concat (id : String) (given : List Series) (s : Series) :
    merged? id (given ++ [s]) =
      if identity s.values = id then
        some ⟨((seriesOf? id given).map Series.values).getD s.values, s.number⟩
      else merged? id given := by
  rw [merged?, seriesOf?_concat, List.reverse_append, List.reverse_singleton, List.singleton_append]
  split
  · rename_i same
    rw [seriesOf?_cons_of_eq same, seriesOf?_cons_of_eq same]
    cases seriesOf? id given <;> rfl
  · rename_i other
    rw [seriesOf?_cons_of_ne other, seriesOf?_cons_of_ne other]
    simp [merged?, seriesOf?]

theorem merged?_of_only {given : List Series} {s : Series} (member : s ∈ given)
    (only : ∀ a ∈ given, identity a.values = identity s.values → a = s) :
    merged? (identity s.values) given = some s := by
  have last := seriesOf?_of_only (List.mem_reverse.mpr member) fun a later =>
    only a (List.mem_reverse.mp later)
  rw [merged?, seriesOf?_of_only member only, last]
  rfl

theorem seriesOf?_assignAll (id : String) (given : List Series) :
    seriesOf? id (assignAll given) = merged? id given := by
  rw [← given.reverse_reverse]
  induction given.reverse with
  | nil => rfl
  | cons s before ih =>
    rw [List.reverse_cons, assignAll_concat, seriesOf?_assign, merged?_concat, ih, merged?_values]

theorem mem_assignAll (given : List Series) (s : Series) :
    s ∈ assignAll given ↔ merged? (identity s.values) given = some s := by
  rw [mem_iff_of_distinct (distinct_assignAll given), seriesOf?_assignAll]

end MountProbe.Gauge
