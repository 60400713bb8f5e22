import MountProbe.Proofs.Path.Apart
import MountProbe.Proofs.Stuck.Quarantine

namespace MountProbe.Stuck

open Race (Deed Event Run Step)

namespace Registry

theorem isStuck_of_same {g : Registry} {p q : Path} (stuck : g.isStuck p = true)
    (same : p.same q = true) : g.isStuck q = true := by
  obtain ⟨e, member, there⟩ := List.any_eq_true.mp stuck
  exact List.any_eq_true.mpr ⟨e, member, Path.same_trans there same⟩

theorem mark_apart {g : Registry} (apart : Path.Apart (g.entries.map (·.path))) (now : Nat)
    (p : Path) : Path.Apart ((g.mark now p).entries.map (·.path)) := by
  unfold mark
  split
  · exact apart
  · rename_i unmarked
    refine List.pairwise_cons.mpr ⟨?_, apart⟩
    intro q member same
    obtain ⟨e, here, rfl⟩ := List.mem_map.mp member
    exact unmarked (List.any_eq_true.mpr ⟨e, here, Path.same_symm same⟩)

theorem clear_apart {g : Registry} (apart : Path.Apart (g.entries.map (·.path))) (p : Path) :
    Path.Apart ((g.clear p).entries.map (·.path)) :=
  apart.sublist (List.filter_sublist.map _)

theorem after_apart {g : Registry} (apart : Path.Apart (g.entries.map (·.path))) (p : Path)
    (d : Deed) : Path.Apart ((g.after p d).entries.map (·.path)) := by
  unfold after
  split
  · exact clear_apart apart p
  · exact mark_apart apart _ p
  · exact apart

end Registry

section

variable {κ : Type}

/-- No two calls are under way on one place, and the registry knows those that were left behind. -/
structure OneEach (r : Race κ) : Prop where
  one : ∀ (i j : Nat) (a b : Call κ), r.calls[i]? = some a → r.calls[j]? = some b → i ≠ j →
    a.path.same b.path = true → a.isOver = true ∨ b.isOver = true
  marked : ∀ c ∈ r.calls, c.isLeftBehind = true → r.registry.isStuck c.path = true
  apart : Path.Apart (r.registry.entries.map (·.path))

theorem oneEach_empty : OneEach (⟨.empty, []⟩ : Race κ) :=
  ⟨by simp, by simp, .nil⟩

/-- A call that has just been left behind has marked its place, and only a call on the same place
takes the mark away. -/
theorem marked_step {r s : Race κ} {k : Nat} {d : Deed} (h : OneEach r)
    (step : Step r (.did k d) s) {i : Nat} {c' : Call κ} (call : s.calls[i]? = some c')
    (behind : c'.isLeftBehind = true) : s.registry.isStuck c'.path = true := by
  obtain ⟨b, b', at_k, does, calls, registry⟩ := Race.step_did step
  have known : ∀ c, r.calls[i]? = some c → c.isLeftBehind = true →
      r.registry.isStuck c.path = true := fun c was => h.marked c (List.mem_of_getElem? was)
  by_cases same : k = i
  · subst same
    rw [calls, Race.getElem?_set_self at_k] at call
    cases Option.some.inj call
    rw [does.path_eq, registry]
    obtain ⟨told, under_way⟩ := Call.isLeftBehind_iff.mp behind
    cases does with
    | foundStuck now _ _ => simp [Registry.after, Registry.isStuck_mark, Path.same_refl]
    | back ending running =>
      exact known b at_k (Call.isLeftBehind_iff.mpr ⟨told, by simp [running]⟩)
    | reported _ _ _ => exact absurd rfl under_way
    | reportedInVain _ _ _ => exact absurd rfl under_way
    | expired _ => cases told
    | foundOver _ _ _ => cases told
    | foundNothing _ => cases told
    | received _ _ => cases told
  · rw [calls, List.getElem?_set_ne same] at call
    have stuck := known c' call behind
    rw [registry]
    cases d with
    | reported entry =>
      rw [Registry.after, Registry.isStuck_clear, stuck, Bool.and_true, Bool.not_eq_true']
      refine Bool.eq_false_iff.mpr fun meets => ?_
      have reporting : b.isOver = false := by
        cases does with
        | reported _ back _ => simp [Call.isOver, back]
        | reportedInVain _ back _ => simp [Call.isOver, back]
      rcases h.one k i b c' at_k call same meets with ended | ended
      · rw [reporting] at ended
        contradiction
      · exact (Call.isLeftBehind_iff.mp behind).2 (Call.isOver_iff.mp ended)
    | looked now gave_up =>
      cases gave_up with
      | true => simp [Registry.after, Registry.isStuck_mark, stuck]
      | false => exact stuck
    | _ => exact stuck

theorem OneEach.step {r s : Race κ} {e : Event κ} (h : OneEach r) (step : Step r e s)
    (free : ∀ p client, e = .started p client → ∀ c ∈ r.calls, c.path.same p = true →
      c.isOver = true) : OneEach s := by
  constructor
  · intro i j a' b' at_i at_j different same
    rcases Race.call_before step at_i with ⟨a, was_a, later_a⟩ | ⟨new_i, p, client, he, ha⟩ <;>
      rcases Race.call_before step at_j with ⟨b, was_b, later_b⟩ | ⟨new_j, q, other, he', hb⟩
    · rw [later_a.path_eq, later_b.path_eq] at same
      exact (h.one i j a b was_a was_b different same).imp later_a.ended later_b.ended
    · rw [later_a.path_eq, hb] at same
      exact .inl (later_a.ended (free q other he' a (List.mem_of_getElem? was_a) same))
    · rw [ha, later_b.path_eq] at same
      have back := Path.same_symm same
      exact .inr (later_b.ended (free p client he b (List.mem_of_getElem? was_b) back))
    · exact absurd (new_i.trans new_j.symm) different
  · intro c' member behind
    obtain ⟨i, call⟩ := List.mem_iff_getElem?.mp member
    cases e with
    | did k d => exact marked_step h step call behind
    | started p client =>
      rw [Race.step_started step] at member ⊢
      rcases List.mem_append.mp member with before | new
      · exact h.marked c' before behind
      · rw [List.mem_singleton.mp new] at behind
        cases behind
  · cases e with
    | started p client =>
      rw [Race.step_started step]
      exact h.apart
    | did i d =>
      obtain ⟨c, _, _, _, _, registry⟩ := Race.step_did step
      rw [registry]
      exact Registry.after_apart h.apart c.path d

theorem OneEach.behind_apart {r : Race κ} (h : OneEach r) :
    Path.Apart ((r.calls.filter (·.isLeftBehind)).map (·.path)) := by
  rw [Path.Apart, List.pairwise_map, List.pairwise_filter, List.pairwise_iff_getElem]
  intro i j hi hj before left_i left_j same
  have either := h.one i j _ _ (List.getElem?_eq_getElem hi) (List.getElem?_eq_getElem hj)
    (Nat.ne_of_lt before) same
  rw [Call.isOver_iff, Call.isOver_iff] at either
  rcases either with ended | ended
  · exact (Call.isLeftBehind_iff.mp left_i).2 ended
  · exact (Call.isLeftBehind_iff.mp left_j).2 ended

theorem countP_behind (r : Race κ) (p : Path) :
    r.calls.countP (fun c => c.isLeftBehind && c.path.same p) =
      ((r.calls.filter (·.isLeftBehind)).map (·.path)).countP (·.same p) := by
  rw [List.countP_map, List.countP_filter]
  exact List.countP_congr fun c _ => by simp [and_comm]

theorem OneEach.countP_eq {r : Race κ} (h : OneEach r) (explained : Explained r) (p : Path) :
    r.calls.countP (fun c => c.isLeftBehind && c.path.same p) =
      if r.registry.isStuck p then 1 else 0 := by
  cases stuck : r.registry.isStuck p with
  | true =>
    obtain ⟨i, c, call, same, behind⟩ := explained p stuck
    have some_call : 0 < r.calls.countP (fun c => c.isLeftBehind && c.path.same p) :=
      List.countP_pos_iff.mpr ⟨c, List.mem_of_getElem? call, by simp [behind, same]⟩
    have at_most := h.behind_apart.countP_le_one p
    rw [← countP_behind] at at_most
    exact Nat.le_antisymm at_most some_call
  | false =>
    refine List.countP_eq_zero.mpr fun c member left => ?_
    rw [Bool.and_eq_true] at left
    have here := Registry.isStuck_of_same (h.marked c member left.1) left.2
    rw [stuck] at here
    contradiction

theorem OneEach.countP_eq_size {r : Race κ} (h : OneEach r) (explained : Explained r) :
    r.calls.countP (·.isLeftBehind) = r.registry.size := by
  suffices places : ((r.calls.filter (·.isLeftBehind)).map (·.path)).length =
      (r.registry.entries.map (·.path)).length by
    simpa [List.countP_eq_length_filter, Registry.size] using places
  apply Nat.le_antisymm
  · refine h.behind_apart.length_le fun p member => ?_
    obtain ⟨c, here, rfl⟩ := List.mem_map.mp member
    obtain ⟨called, behind⟩ := List.mem_filter.mp here
    obtain ⟨e, entry, same⟩ := List.any_eq_true.mp (h.marked c called behind)
    exact ⟨e.path, List.mem_map_of_mem entry, same⟩
  · refine h.apart.length_le fun p member => ?_
    obtain ⟨e, entry, rfl⟩ := List.mem_map.mp member
    obtain ⟨i, c, call, same, behind⟩ :=
      explained e.path (List.any_eq_true.mpr ⟨e, entry, Path.same_refl _⟩)
    have left := List.mem_filter.mpr ⟨List.mem_of_getElem? call, behind⟩
    exact ⟨c.path, List.mem_map_of_mem left, same⟩

end

end MountProbe.Stuck
