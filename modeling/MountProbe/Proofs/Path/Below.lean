import MountProbe.Proofs.Path.Pieces

namespace MountProbe.Path

def stepsOf (raw : Bytes) : List Component :=
  (splitAtSlashes raw).filterMap stepOf

/-- What a path begins with, where that is no piece. -/
def lead (p : Path) : List Component :=
  match start p.raw with
  | some (c, _) => [c]
  | none => []

/-- The path leads to the base or on from there. -/
def IsBelow (p base : Path) : Prop :=
  base.components <+: p.components

section

variable {p q base : Path} {a b : Bytes}

theorem components_eq (p : Path) : p.components = p.lead ++ p.body.filterMap stepOf := by
  cases begun : start p.raw with
  | none => simp only [components, lead, body, begun, List.nil_append]
  | some first => simp only [components, lead, body, begun, List.singleton_append]

theorem start_eq_some {raw rest : Bytes} {c : Component} (begun : start raw = some (c, rest)) :
    ∃ y, raw = y :: rest ∧ (y = slash ∧ c = .root ∨ y = dot ∧ c = .here) := by
  unfold start at begun
  split at begun
  · cases begun
  · split at begun
    · cases begun
      exact ⟨_, rfl, .inl ⟨‹_›, rfl⟩⟩
    · split at begun
      · cases begun
        exact ⟨_, rfl, .inr ⟨‹_›, rfl⟩⟩
      · cases begun
  · split at begun
    · cases begun
      exact ⟨_, rfl, .inl ⟨‹_›, rfl⟩⟩
    · split at begun
      · rename_i at_dot
        cases begun
        exact ⟨_, rfl, .inr ⟨at_dot.1, rfl⟩⟩
      · cases begun

theorem length_head (p : Path) : p.head.length = p.lead.length := by
  cases begun : start p.raw with
  | none => simp only [head, lead, begun, List.length_nil]
  | some first =>
    obtain ⟨y, spelled, -⟩ := start_eq_some begun
    simp only [head, lead, begun]
    rw [spelled]
    rfl

theorem stepsOf_nil : stepsOf [] = [] := rfl

theorem stepsOf_append_slash (a b : Bytes) : stepsOf (a ++ slash :: b) = stepsOf a ++ stepsOf b := by
  rw [stepsOf, splitAtSlashes_append_slash, List.filterMap_append]
  rfl

theorem components_slash (b : Bytes) : components ⟨slash :: b⟩ = .root :: stepsOf b := by
  cases b with
  | nil => rfl
  | cons x rest => rfl

theorem start_append_slash (filled : a ≠ []) (b : Bytes) : start (a ++ slash :: b) =
    (start a).map fun begun => (begun.1, begun.2 ++ slash :: b) := by
  match a with
  | [] => exact absurd rfl filled
  | [x] =>
    by_cases at_slash : x = slash
    · simp [start, at_slash]
    · by_cases at_dot : x = dot
      · simp [start, at_dot, dot, slash]
      · simp [start, at_slash, at_dot]
  | x :: y :: rest =>
    by_cases at_slash : x = slash
    · simp [start, at_slash]
    · by_cases at_dot : x = dot ∧ y = slash
      · simp [start, at_dot, dot, slash]
      · simp [start, at_slash, at_dot]

theorem components_append_slash (filled : a ≠ []) (b : Bytes) :
    components ⟨a ++ slash :: b⟩ = components ⟨a⟩ ++ stepsOf b := by
  simp only [components, start_append_slash filled]
  cases start a with
  | none => exact stepsOf_append_slash a b
  | some begun => exact congrArg (begun.1 :: ·) (stepsOf_append_slash begun.2 b)

theorem components_join (named : base.isEmpty = false) (relative : p.isAbsolute = false) :
    (base.join p).components = base.components ++ stepsOf p.raw := by
  obtain ⟨raw⟩ := base
  have filled : raw ≠ [] := by simpa [isEmpty] using named
  rw [join, if_neg (by simp [relative])]
  split
  · rename_i open_end
    -- The base ends in a slash, so that it has an empty piece there.
    have last : raw.getLast? = some slash := by simpa [filled] using open_end
    obtain ⟨a, rfl⟩ := List.getLast?_eq_some_iff.mp last
    rw [List.append_assoc, List.singleton_append]
    cases a with
    | nil => exact components_slash p.raw
    | cons x rest =>
      rw [components_append_slash (by simp), components_append_slash (by simp), stepsOf_nil,
        List.append_nil]
  · exact components_append_slash filled p.raw

theorem isAbsolute_of_components {later : List Component}
    (steps : p.components = .root :: later) : p.isAbsolute = true := by
  have no_root : .root ∉ stepsOf p.raw := by
    intro member
    obtain ⟨q, -, step⟩ := List.mem_filterMap.mp member
    unfold stepOf at step
    split at step
    · cases step
    · split at step <;> cases step
  cases begun : start p.raw with
  | none =>
    simp only [components, begun] at steps
    rw [stepsOf, steps] at no_root
    exact absurd List.mem_cons_self no_root
  | some first =>
    obtain ⟨y, spelled, ⟨rfl, -⟩ | ⟨-, here⟩⟩ := start_eq_some begun
    · rw [isAbsolute, spelled]
      rfl
    · simp only [components, begun, here] at steps
      cases steps

/-- A name that is not empty has a step. -/
theorem components_ne_nil (named : base.isEmpty = false) : base.components ≠ [] := by
  rw [components_eq]
  cases begun : start base.raw with
  | some first => simp [lead, begun]
  | none =>
    obtain ⟨raw⟩ := base
    cases raw with
    | nil => cases named
    | cons x rest =>
      have no_slash : x ≠ slash := by
        rintro rfl
        cases rest <;> simp [start] at begun
      obtain ⟨q, qs, short, long⟩ := splitAtSlashes_cons no_slash rest
      have real : isIdle (x :: q) = false := by
        by_contra idle
        have at_dot : x = dot ∧ q = [] := by simpa [isIdle] using idle
        obtain ⟨rfl, rfl⟩ := at_dot
        -- After the dot comes nothing or a slash, which is a beginning.
        cases rest with
        | nil => simp [start, dot, slash] at begun
        | cons y more =>
          by_cases at_slash : y = slash
          · simp [start, at_slash, dot, slash] at begun
          · obtain ⟨k, ks, -, after⟩ := splitAtSlashes_cons at_slash more
            rw [after] at short
            cases short
      obtain ⟨c, step⟩ := stepOf_of_not_idle real
      simp only [lead, body, begun, long, List.filterMap_cons, step]
      simp

theorem isAbsolute_joinPieces {ps : List Bytes} (real : ∀ q, ps.head? = some q → isIdle q = false)
    (no_slash : ∀ q ∈ ps, slash ∉ q) : isAbsolute ⟨joinPieces ps⟩ = false := by
  match ps with
  | [] => rfl
  | [] :: qs => cases real [] rfl
  | (x :: q) :: qs =>
    have other : x ≠ slash := by
      rintro rfl
      exact no_slash _ List.mem_cons_self List.mem_cons_self
    cases qs <;> simpa [isAbsolute, joinPieces] using other

theorem stepsOf_joinPieces {ps : List Bytes} (no_slash : ∀ q ∈ ps, slash ∉ q) :
    stepsOf (joinPieces ps) = ps.filterMap stepOf := by
  cases ps with
  | nil => rfl
  | cons q qs => rw [stepsOf, splitAtSlashes_joinPieces (List.cons_ne_nil q qs) no_slash]

theorem no_slash_of_mem_body {k : Bytes} (piece : k ∈ p.body) : slash ∉ k := by
  unfold body at piece
  split at piece
  · exact no_slash_of_mem piece
  · exact no_slash_of_mem piece

/-- What is left below a base is relative, and has the steps that come after those of the base. -/
theorem below?_of_isBelow (named : base.isEmpty = false) (below : p.IsBelow base) :
    ∃ rest, p.below? base = some rest ∧ rest.isAbsolute = false ∧
      p.components = base.components ++ stepsOf rest.raw := by
  have taken : 0 < base.components.length := List.length_pos_iff.mpr (components_ne_nil named)
  have few : p.lead.length ≤ base.components.length := by
    have one : p.lead.length ≤ 1 := by
      unfold lead
      split <;> simp
    omega
  let left := afterSteps (base.components.length - p.head.length) p.body
  obtain ⟨idle, whole, -, -⟩ := dropIdleEnd_spec left
  have no_slash : ∀ k ∈ dropIdleEnd left, slash ∉ k := by
    intro k member
    have piece : k ∈ left := by
      rw [whole]
      exact List.mem_append_left idle member
    exact no_slash_of_mem_body ((afterSteps_suffix _ _).subset piece)
  refine ⟨⟨joinPieces (dropIdleEnd left)⟩, ?_, isAbsolute_joinPieces ?_ no_slash, ?_⟩
  · rw [below?, if_pos (List.isPrefixOf_iff_prefix.mpr below), if_neg (by omega)]
  · intro k first
    have kept : left.head? = some k := by
      rw [whole, List.head?_append, first]
      rfl
    exact head_afterSteps kept
  · rw [stepsOf_joinPieces no_slash, filterMap_dropIdleEnd, filterMap_afterSteps, length_head]
    obtain ⟨later, steps⟩ := below
    rw [← steps]
    apply congrArg (base.components ++ ·)
    have dropped := congrArg (List.drop base.components.length) steps
    rw [List.drop_left, components_eq p, List.drop_append, List.drop_eq_nil_of_le few,
      List.nil_append] at dropped
    exact dropped

theorem below?_of_not_isBelow (apart : ¬ p.IsBelow base) : p.below? base = none := by
  rw [below?, if_neg]
  rwa [List.isPrefixOf_iff_prefix]

/-- Slashes and dots apart, the bytes of a path are those of its names. -/
theorem mem_raw_iff {x : UInt8} (no_slash : x ≠ slash) (no_dot : x ≠ dot) :
    x ∈ p.raw ↔ ∃ bytes, .name bytes ∈ p.components ∧ x ∈ bytes := by
  have pieces : ∀ raw : Bytes, x ∈ raw ↔ ∃ bytes, .name bytes ∈ stepsOf raw ∧ x ∈ bytes := by
    intro raw
    rw [mem_iff_of_ne_slash no_slash]
    constructor
    · rintro ⟨q, piece, member⟩
      refine ⟨q, List.mem_filterMap.mpr ⟨q, piece, ?_⟩, member⟩
      have real : isIdle q = false := by
        by_contra idle
        have either : q = [] ∨ q = [dot] := by
          rw [Bool.not_eq_false, isIdle, Bool.or_eq_true] at idle
          simpa using idle
        rcases either with rfl | rfl
        · cases member
        · exact no_dot (List.mem_singleton.mp member)
      have no_up : q ≠ [dot, dot] := by
        rintro rfl
        simp [no_dot] at member
      rw [stepOf, if_neg (by simp [real]), if_neg no_up]
    · rintro ⟨bytes, step, member⟩
      obtain ⟨q, piece, same⟩ := List.mem_filterMap.mp step
      unfold stepOf at same
      split at same
      · cases same
      · split at same
        · cases same
        · cases same
          exact ⟨bytes, piece, member⟩
  cases begun : start p.raw with
  | none =>
    simp only [components, begun]
    exact pieces p.raw
  | some first =>
    obtain ⟨c, rest⟩ := first
    obtain ⟨y, spelled, edge⟩ := start_eq_some begun
    simp only [components, begun]
    rw [spelled, List.mem_cons, pieces rest]
    rcases edge with ⟨rfl, rfl⟩ | ⟨rfl, rfl⟩
    · simp [no_slash, stepsOf]
    · simp [no_dot, stepsOf]

theorem mem_raw_of_same {x : UInt8} (no_slash : x ≠ slash) (no_dot : x ≠ dot)
    (same : p.same q = true) : x ∈ p.raw ↔ x ∈ q.raw := by
  rw [mem_raw_iff no_slash no_dot, mem_raw_iff no_slash no_dot, same_iff.mp same]

end

end MountProbe.Path
