import MountProbe.Collector.Basic
import MountProbe.Proofs.Path.Apart

namespace MountProbe

namespace Mount

theorem splitRepeated_perm (seen : List Path) (ms : List Label) :
    ((splitRepeated seen ms).1 ++ (splitRepeated seen ms).2).Perm ms := by
  induction ms generalizing seen with
  | nil => exact .refl []
  | cons m rest ih =>
    simp only [splitRepeated]
    split
    · exact List.perm_middle.trans ((ih seen).cons m)
    · exact (ih (m.mountPoint :: seen)).cons m

theorem splitRepeated_unseen (seen : List Path) (ms : List Label) :
    ∀ m ∈ (splitRepeated seen ms).1, ∀ p ∈ seen, ¬ p.same m.mountPoint = true := by
  induction ms generalizing seen with
  | nil => simp [splitRepeated]
  | cons m rest ih =>
    simp only [splitRepeated]
    split
    · exact ih seen
    · rename_i unseen
      intro l hl p hp
      rcases List.mem_cons.mp hl with rfl | hl
      · intro same
        exact unseen (List.any_eq_true.mpr ⟨p, hp, same⟩)
      · exact ih (m.mountPoint :: seen) l hl p (List.mem_cons_of_mem _ hp)

theorem splitRepeated_apart (seen : List Path) (ms : List Label) :
    Path.Apart ((splitRepeated seen ms).1.map (·.mountPoint)) := by
  induction ms generalizing seen with
  | nil => exact .nil
  | cons m rest ih =>
    simp only [splitRepeated]
    split
    · exact ih seen
    · refine List.pairwise_cons.mpr ⟨?_, ih _⟩
      intro p hp
      obtain ⟨l, hl, rfl⟩ := List.mem_map.mp hp
      exact splitRepeated_unseen _ rest l hl m.mountPoint List.mem_cons_self

theorem splitRepeated_covered (seen : List Path) (ms : List Label) :
    ∀ m ∈ (splitRepeated seen ms).2, (∃ p ∈ seen, p.same m.mountPoint = true) ∨
      ∃ l ∈ (splitRepeated seen ms).1, l.mountPoint.same m.mountPoint = true := by
  induction ms generalizing seen with
  | nil => simp [splitRepeated]
  | cons m rest ih =>
    simp only [splitRepeated]
    split
    · rename_i known
      intro l hl
      rcases List.mem_cons.mp hl with rfl | hl
      · exact .inl (List.any_eq_true.mp known)
      · exact ih seen l hl
    · intro l hl
      rcases ih _ l hl with ⟨p, hp, same⟩ | ⟨l', hl', same⟩
      · rcases List.mem_cons.mp hp with rfl | hp
        · exact .inr ⟨m, List.mem_cons_self, same⟩
        · exact .inl ⟨p, hp, same⟩
      · exact .inr ⟨l', List.mem_cons_of_mem _ hl', same⟩

end Mount

end MountProbe
