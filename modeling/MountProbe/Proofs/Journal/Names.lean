import MountProbe.Journal.Writer
import MountProbe.Proofs.Text.Reading

namespace MountProbe.Journal

/-- The path of a log or, after so many rotations, of an older part of it. -/
def logPath (base : Path) : Nat → Path
  | 0 => base
  | i + 1 => rotatedName base (i + 1)

def ending (i : Nat) : Bytes :=
  Text.utf8 ("." ++ toString i).toList

/-- The last step of the path of a log, or of an older part of it. -/
def logName (name : Bytes) : Nat → Bytes
  | 0 => name
  | i + 1 => name ++ ending (i + 1)

theorem ending_eq (i : Nat) : ending i = Text.utf8 ('.' :: Nat.toDigits 10 i) := by
  have digits : (toString i).toList = Nat.toDigits 10 i := String.toList_ofList
  rw [ending, String.toList_append, digits]
  rfl

theorem ending_ne_nil (i : Nat) : ending i ≠ [] := by
  rw [ending_eq, Text.utf8_cons]
  simp [String.utf8EncodeChar]

theorem ending_injective {i j : Nat} (same : ending i = ending j) : i = j := by
  rw [ending_eq, ending_eq] at same
  have digits := (List.cons.inj (Text.utf8_injective same)).2
  have value := congrArg (fun cs => Nat.ofDigitChars 10 cs 0) digits
  simpa only [Nat.ofDigitChars_toDigits (b := 10) (by decide) (by decide)] using value

theorem slash_not_mem_ending (i : Nat) : Path.slash ∉ ending i := by
  rw [ending_eq]
  intro member
  obtain ⟨c, here, encoded⟩ := List.mem_flatMap.mp member
  have own : c = '/' := Text.eq_of_ascii encoded (by decide)
  subst own
  rcases List.mem_cons.mp here with dot | digit
  · cases dot
  · exact absurd (Text.toDigits_range i _ digit).1 (by decide)

theorem logName_injective {name : Bytes} {i j : Nat} (same : logName name i = logName name j) :
    i = j := by
  cases i with
  | zero =>
    cases j with
    | zero => rfl
    | succ j => exact absurd (List.self_eq_append_right.mp same) (ending_ne_nil _)
  | succ i =>
    cases j with
    | zero => exact absurd (List.self_eq_append_right.mp same.symm) (ending_ne_nil _)
    | succ j => exact ending_injective (List.append_cancel_left same)

theorem logPath_no_slash {base : Path} (no_slash : base.raw.getLast? ≠ some Path.slash) (i : Nat) :
    (logPath base i).raw.getLast? ≠ some Path.slash := by
  cases i with
  | zero => exact no_slash
  | succ i =>
    intro last
    have raw : (logPath base (i + 1)).raw = base.raw ++ ending (i + 1) := rfl
    rw [raw, List.getLast?_append, List.getLast?_eq_some_getLast (ending_ne_nil _),
      Option.some_or] at last
    exact slash_not_mem_ending _ (Option.some.inj last ▸ List.getLast_mem (ending_ne_nil _))

section

variable {f : Nat → Option NodeId} {k n : Nat} {x y : NodeId}

/-- What the names of a log lead to after what stood under one of them was passed on to the next.
Nothing happens if nothing stood there, or if both names led to it. -/
def passOn (f : Nat → Option NodeId) (j n : Nat) : Option NodeId :=
  match f j with
  | none => f n
  | some i => if f (j + 1) = some i then f n else if n = j + 1 then some i
    else if n = j then none else f n

def passDown : Nat → (Nat → Option NodeId) → Nat → Option NodeId
  | 0, f => f
  | k + 1, f => passDown k (passOn f k)

theorem passOn_of_none (h : f k = none) : passOn f k = f := by
  funext n
  rw [passOn, h]

theorem passOn_of_same (h : f k = some x) (same : f (k + 1) = some x) : passOn f k = f := by
  funext n
  rw [passOn, h]
  simp only [if_pos same]

theorem passOn_of_ne (h : f k = some x) (other : f (k + 1) ≠ some x) (n : Nat) :
    passOn f k n = if n = k + 1 then some x else if n = k then none else f n := by
  rw [passOn, h]
  simp only [if_neg other]

theorem passOn_outside (low : n ≠ k) (high : n ≠ k + 1) : passOn f k n = f n := by
  cases h : f k with
  | none => rw [passOn_of_none h]
  | some x =>
    by_cases same : f (k + 1) = some x
    · rw [passOn_of_same h same]
    · rw [passOn_of_ne h same, if_neg high, if_neg low]

theorem stays_of_passOn (h : passOn f k k = some x) : f k = some x ∧ f (k + 1) = some x := by
  cases here : f k with
  | none =>
    rw [passOn_of_none here, here] at h
    cases h
  | some y =>
    by_cases same : f (k + 1) = some y
    · rw [passOn_of_same here same, here] at h
      rw [same]
      exact ⟨h, h⟩
    · rw [passOn_of_ne here same, if_neg (by omega), if_pos rfl] at h
      cases h

theorem passDown_above (high : k < n) : passDown k f n = f n := by
  induction k generalizing f with
  | zero => rfl
  | succ k ih => rw [passDown, ih (by omega), passOn_outside (by omega) (by omega)]

theorem source_of_passOn {most : Nat} (within : k < most) (n_within : n ≤ most)
    (h : passOn f k n = some x) : ∃ m ≤ most, f m = some x := by
  by_cases low : n = k
  · subst low
    exact ⟨n, n_within, (stays_of_passOn h).1⟩
  by_cases high : n = k + 1
  · subst high
    cases here : f k with
    | none =>
      rw [passOn_of_none here] at h
      exact ⟨k + 1, n_within, h⟩
    | some y =>
      by_cases same : f (k + 1) = some y
      · rw [passOn_of_same here same] at h
        exact ⟨k + 1, n_within, h⟩
      · rw [passOn_of_ne here same, if_pos rfl] at h
        exact ⟨k, by omega, here.trans h⟩
  · rw [passOn_outside low high] at h
    exact ⟨n, n_within, h⟩

theorem source_of_passDown {most : Nat} (within : k ≤ most) (n_within : n ≤ most)
    (h : passDown k f n = some x) : ∃ m ≤ most, f m = some x := by
  induction k generalizing f with
  | zero => exact ⟨n, n_within, h⟩
  | succ k ih =>
    obtain ⟨m, m_within, found⟩ := ih (by omega) h
    exact source_of_passOn within m_within found

theorem passDown_zero (h : passDown k f 0 = some x) : ∀ i ≤ k, f i = some x := by
  induction k generalizing f with
  | zero =>
    intro i low
    rw [Nat.le_zero.mp low]
    exact h
  | succ k ih =>
    have earlier := ih h
    obtain ⟨here, next⟩ := stays_of_passOn (earlier k (Nat.le_refl k))
    rw [passOn_of_same here next] at earlier
    intro i low
    rcases Nat.le_succ_iff.mp low with before | last
    · exact earlier i before
    · rw [last]
      exact next

theorem kept_of_passDown (within : n ≤ k) (h : f n = some x) :
    (∃ m ≤ k, passDown k f m = some x) ∨ f k = some x := by
  induction k generalizing f n with
  | zero => exact .inl ⟨n, within, h⟩
  | succ k ih =>
    by_cases last : f (k + 1) = some x
    · exact .inr last
    left
    have below : n ≤ k := by
      rcases Nat.le_succ_iff.mp within with below | same
      · exact below
      · rw [same] at h
        exact absurd h last
    by_cases own : n = k
    · subst own
      refine ⟨n + 1, by omega, ?_⟩
      rw [passDown, passDown_above (by omega), passOn_of_ne h last, if_pos rfl]
    · have still : passOn f k n = some x := by rwa [passOn_outside own (by omega)]
      rcases ih below still with ⟨m, m_within, found⟩ | top
      · exact ⟨m, by omega, found⟩
      · exact absurd (stays_of_passOn top).2 last

theorem passDown_of_room (room : f k = none) :
    passDown k f n = if n = 0 then none else if n ≤ k then f (n - 1) else f n := by
  induction k generalizing f with
  | zero =>
    split
    · rename_i zero
      rw [zero]
      exact room
    · rw [if_neg (by omega)]
      rfl
  | succ k ih =>
    have emptied : passOn f k k = none := by
      by_contra stays
      obtain ⟨x, found⟩ := Option.ne_none_iff_exists'.mp stays
      rw [(stays_of_passOn found).2] at room
      cases room
    have moved : passOn f k (k + 1) = f k := by
      cases here : f k with
      | none => rw [passOn_of_none here, room]
      | some x => rw [passOn_of_ne here (by simp [room]), if_pos rfl]
    rw [passDown, ih emptied]
    split
    · rfl
    · by_cases top : n = k + 1
      · rw [top, if_neg (by omega), if_pos (by omega), moved, Nat.add_sub_cancel]
      · split
        · rw [passOn_outside (by omega) (by omega), if_pos (by omega)]
        · rw [passOn_outside (by omega) top, if_neg (by omega)]

theorem passDown_of_apart (no_gap : f k = none → f (k + 1) = none)
    (apart : ∀ x, f k = some x → f (k + 1) ≠ some x) :
    passDown (k + 1) f n = if n = 0 then none else if n ≤ k + 1 then f (n - 1) else f n := by
  cases here : f k with
  | none => exact passDown_of_room (no_gap here)
  | some x =>
    have pass := passOn_of_ne here (apart x here)
    have emptied : passOn f k k = none := by rw [pass, if_neg (by omega), if_pos rfl]
    rw [passDown, passDown_of_room emptied]
    split
    · rfl
    · by_cases top : n = k + 1
      · rw [top, if_neg (by omega), if_pos (by omega), pass, if_pos rfl, Nat.add_sub_cancel, here]
      · split
        · rw [passOn_outside (by omega) (by omega), if_pos (by omega)]
        · rw [passOn_outside (by omega) top, if_neg (by omega)]

end

end MountProbe.Journal
