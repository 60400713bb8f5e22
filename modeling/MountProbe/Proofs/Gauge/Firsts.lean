import MountProbe.Gauge.Mounts

namespace MountProbe

/-- What a row is about: its device, the steps to its place, and its file system type. -/
def Mount.Label.subject (l : Mount.Label) : String × List Path.Component × String :=
  (l.device, l.mountPoint.components, l.fsType)

namespace Gauge

theorem isRepeat_iff {a b : Stat.Record} :
    isRepeat a b = true ↔ a.label.subject = b.label.subject := by
  simp [isRepeat, Mount.Label.subject, Path.same, and_assoc]

def firstAbout? (subject : String × List Path.Component × String) (records : List Stat.Record) :
    Option Stat.Record :=
  records.find? fun r => r.label.subject = subject

theorem subject_of_firstAbout? {subject : String × List Path.Component × String}
    {records : List Stat.Record} {r : Stat.Record} (first : firstAbout? subject records = some r) :
    r.label.subject = subject := by
  simpa using List.find?_some first

theorem mem_firstsAfter {taken records : List Stat.Record} {r : Stat.Record} :
    r ∈ firstsAfter taken records ↔
      (∀ t ∈ taken, t.label.subject ≠ r.label.subject) ∧
        firstAbout? r.label.subject records = some r := by
  induction records generalizing taken with
  | nil => simp [firstsAfter, firstAbout?]
  | cons a rest ih =>
    by_cases about : a.label.subject = r.label.subject
    · have found : firstAbout? r.label.subject (a :: rest) = some a := by
        simp [firstAbout?, about]
      rw [found, firstsAfter]
      split
      · rename_i known
        obtain ⟨t, before, repeated⟩ := List.any_eq_true.mp known
        have same := (isRepeat_iff.mp repeated).trans about
        rw [ih]
        constructor <;> rintro ⟨unseen, _⟩ <;> exact absurd same (unseen t before)
      · rename_i unknown
        have unseen : ∀ t ∈ taken, t.label.subject ≠ r.label.subject := by
          intro t before same
          exact unknown (List.any_eq_true.mpr ⟨t, before, isRepeat_iff.mpr (same.trans about.symm)⟩)
        have not_later : r ∉ firstsAfter (a :: taken) rest := fun later =>
          (ih.mp later).1 a List.mem_cons_self about
        rw [List.mem_cons, or_iff_left not_later, and_iff_right unseen, Option.some.injEq, eq_comm]
    · have skipped : firstAbout? r.label.subject (a :: rest) =
          firstAbout? r.label.subject rest := by
        simp [firstAbout?, about]
      have other : r ≠ a := by
        rintro rfl
        exact about rfl
      rw [skipped, firstsAfter]
      split
      · exact ih
      · rw [List.mem_cons, or_iff_right other, ih, List.forall_mem_cons, and_iff_right about]

theorem mem_firsts {records : List Stat.Record} {r : Stat.Record} :
    r ∈ firsts records ↔ firstAbout? r.label.subject records = some r := by
  rw [firsts, mem_firstsAfter, and_iff_right (by simp)]

theorem mem_of_mem_firsts {records : List Stat.Record} {r : Stat.Record}
    (kept : r ∈ firsts records) : r ∈ records :=
  List.mem_of_find?_eq_some (mem_firsts.mp kept)

theorem eq_of_mem_firsts {records : List Stat.Record} {q r : Stat.Record}
    (kept : q ∈ firsts records) (kept' : r ∈ firsts records)
    (same : q.label.subject = r.label.subject) : q = r := by
  have first := mem_firsts.mp kept
  rw [same, mem_firsts.mp kept'] at first
  exact (Option.some.inj first).symm

theorem exists_mem_firsts {records : List Stat.Record} {r : Stat.Record} (member : r ∈ records) :
    ∃ q ∈ firsts records, q.label.subject = r.label.subject := by
  have found : (firstAbout? r.label.subject records).isSome = true :=
    List.find?_isSome.mpr ⟨r, member, by simp⟩
  obtain ⟨q, first⟩ := Option.isSome_iff_exists.mp found
  have same := subject_of_firstAbout? first
  refine ⟨q, mem_firsts.mpr ?_, same⟩
  rw [same]
  exact first

end Gauge

end MountProbe
