import MountProbe.Proofs.Path.Below

namespace MountProbe.Path

def Continues (p above : Path) (rest : Bytes) : Prop :=
  p.raw = above.raw ++ slash :: rest ∨ above.raw = [slash] ∧ p.raw = slash :: rest

section

variable {p above : Path} {as bs : List Bytes} {raw rest : Bytes}

theorem joinPieces_append (some : as ≠ []) (more : bs ≠ []) :
    joinPieces (as ++ bs) = joinPieces as ++ slash :: joinPieces bs := by
  obtain ⟨b, bs, rfl⟩ := List.exists_cons_of_ne_nil more
  induction as with
  | nil => exact absurd rfl some
  | cons a as ih =>
    cases as with
    | nil => rfl
    | cons a' as =>
      have inner := ih (List.cons_ne_nil a' as)
      rw [List.cons_append] at inner
      rw [List.cons_append, List.cons_append, joinPieces, inner, joinPieces, List.append_assoc,
        List.cons_append]

theorem raw_eq (p : Path) : p.raw = p.head ++ joinPieces p.body := by
  cases begun : start p.raw with
  | none =>
    simp only [head, body, begun, List.nil_append]
    exact (joinPieces_splitAtSlashes p.raw).symm
  | some first =>
    obtain ⟨y, spelled, -⟩ := start_eq_some begun
    simp only [head, body, begun, joinPieces_splitAtSlashes]
    rw [spelled]
    rfl

theorem start_here (begun : start raw = some (.here, rest)) :
    rest = [] ∨ ∃ later, rest = slash :: later := by
  match raw with
  | [] => cases begun
  | [x] =>
    rw [start] at begun
    split at begun
    · cases begun
    · split at begun
      · cases begun
        exact .inl rfl
      · cases begun
  | x :: y :: later =>
    rw [start] at begun
    split at begun
    · cases begun
    · split at begun
      · rename_i both
        cases begun
        exact .inr ⟨later, by rw [both.2]⟩
      · cases begun

theorem continues_head {n : Bytes} (begun : p.head ≠ []) (step : n ∈ p.body)
    (real : isIdle n = false) :
    ∃ rest, p.Continues ⟨p.head⟩ rest ∧ n ∈ splitAtSlashes rest := by
  cases at_start : start p.raw with
  | none => exact absurd (by simp only [head, at_start]) begun
  | some first =>
    obtain ⟨c, rest⟩ := first
    obtain ⟨y, spelled, edge⟩ := start_eq_some at_start
    have head_eq : p.head = [y] := by
      simp only [head, at_start]
      rw [spelled]
      rfl
    simp only [body, at_start] at step
    rw [head_eq]
    rcases edge with ⟨rfl, -⟩ | ⟨rfl, rfl⟩
    · exact ⟨rest, .inr ⟨rfl, spelled⟩, step⟩
    · rcases start_here at_start with rfl | ⟨later, rfl⟩
      · rw [splitAtSlashes, List.mem_singleton] at step
        subst step
        cases real
      · rw [splitAtSlashes_slash, List.mem_cons] at step
        rcases step with rfl | step
        · cases real
        · exact ⟨later, .inl spelled, step⟩

theorem continues_of_parent? (up : p.parent? = some above) (named : above.isEmpty = false) :
    ∃ rest, p.Continues above rest ∧ ∃ n ∈ splitAtSlashes rest, isIdle n = false := by
  unfold parent? at up
  split at up
  · split at up
    · cases up
      cases named
    · cases up
  · rename_i some_piece
    cases up
    obtain ⟨idle, whole, -, real⟩ := dropIdleEnd_spec p.body
    generalize dropIdleEnd p.body = pieces at some_piece whole real named ⊢
    obtain ⟨idle', front, -, -⟩ := dropIdleEnd_spec pieces.dropLast
    generalize dropIdleEnd pieces.dropLast = above at front named ⊢
    have last_real := real _ (List.getLast?_eq_some_getLast some_piece)
    generalize last : pieces.getLast some_piece = n at last_real
    have body_eq : p.body = above ++ (idle' ++ n :: idle) := by
      rw [whole, ← List.dropLast_concat_getLast some_piece, last, front]
      simp
    cases above with
    | nil =>
      rw [joinPieces, List.append_nil] at named ⊢
      have step : n ∈ p.body := by
        rw [body_eq]
        simp
      obtain ⟨rest, continues, member⟩ :=
        continues_head (by simpa [isEmpty] using named) step last_real
      exact ⟨rest, continues, n, member, last_real⟩
    | cons a as =>
      have no_slash : ∀ q ∈ idle' ++ n :: idle, slash ∉ q := by
        intro q member
        apply no_slash_of_mem_body (p := p)
        rw [body_eq]
        exact List.mem_append_right _ member
      refine ⟨joinPieces (idle' ++ n :: idle), .inl ?_, n, ?_, last_real⟩
      · rw [raw_eq p, body_eq, joinPieces_append (List.cons_ne_nil a as) (by simp),
          List.append_assoc]
      · rw [splitAtSlashes_joinPieces (by simp) no_slash]
        simp

end

end MountProbe.Path
