import Mathlib.Data.List.Basic

namespace MountProbe

section

variable {α β ε : Type}

theorem ok_of_toOption {x : Except ε α} {a : α} (h : x.toOption = some a) : x = .ok a := by
  cases x with
  | error e => cases h
  | ok b => exact congrArg Except.ok (Option.some.inj h)

theorem bind_eq_ok {x : Except ε α} {f : α → Except ε β} {b : β} :
    (x >>= f) = .ok b ↔ ∃ a, x = .ok a ∧ f a = .ok b := by
  constructor
  · intro given
    cases x with
    | error e => cases given
    | ok a => exact ⟨a, rfl, given⟩
  · rintro ⟨a, rfl, given⟩
    exact given

theorem ok_of_refusal {refused : Prop} [Decidable refused] {e : ε} {x : Except ε α} {a : α}
    (given : (if refused then (Except.error e : Except ε β) >>= fun _ => x else x) = .ok a) :
    ¬ refused ∧ x = .ok a := by
  split at given
  · cases given
  · rename_i accepted
    exact ⟨accepted, given⟩

variable {f : α → Except ε β} {xs : List α}

theorem mapM_ok (each : ∀ a ∈ xs, ∃ b, f a = .ok b) : ∃ bs, xs.mapM f = .ok bs := by
  induction xs with
  | nil => exact ⟨[], rfl⟩
  | cons a rest ih =>
    obtain ⟨b, head⟩ := each a List.mem_cons_self
    obtain ⟨bs, tail⟩ := ih fun x later => each x (List.mem_cons_of_mem _ later)
    exact ⟨b :: bs, by rw [List.mapM_cons, head, tail]; rfl⟩

theorem mapM_error {e : ε} (each : ∀ a ∈ xs, (∃ b, f a = .ok b) ∨ f a = .error e)
    (fails : ∃ a ∈ xs, f a = .error e) : xs.mapM f = .error e := by
  induction xs with
  | nil =>
    obtain ⟨a, member, _⟩ := fails
    cases member
  | cons a rest ih =>
    rw [List.mapM_cons]
    rcases each a List.mem_cons_self with ⟨b, head⟩ | head
    · obtain ⟨x, member, fault⟩ := fails
      rcases List.mem_cons.mp member with rfl | later
      · rw [head] at fault
        cases fault
      · rw [head, ih (fun y there => each y (List.mem_cons_of_mem _ there)) ⟨x, later, fault⟩]
        rfl
    · rw [head]
      rfl

end

end MountProbe
