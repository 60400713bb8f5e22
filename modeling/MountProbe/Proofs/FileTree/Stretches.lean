import MountProbe.Proofs.FileTree.Entries
import MountProbe.Proofs.Failing

namespace MountProbe.FileTree

def onward (t : FileTree) (rest : List Bytes) : Spot × Nat → Except Errno (Spot × Nat)
  | (.here dir, left) => t.locate left dir rest
  | (.entry dir name, left) => t.locate left dir (name :: rest)

/-- The last step of a way, as far as it is an entry, has been looked at. -/
def Checked (t : FileTree) : Spot → Prop
  | .here _ => True
  | .entry dir name => t.isDirNode dir = true ∧ name.length ≤ longestName ∧
      name ≠ [Path.dot] ∧ name ≠ [Path.dot, Path.dot]

section

variable {t : FileTree} {links left : Nat} {dir i : NodeId} {rest : List Bytes} {spot : Spot}
  {found : Spot × Nat} {name : Bytes} {p : Path}

theorem isDirNode_of_locate {steps : List Bytes} (more : steps ≠ [])
    (located : t.locate links dir steps = .ok found) : t.isDirNode dir = true := by
  obtain ⟨p, rest, rfl⟩ := List.exists_cons_of_ne_nil more
  by_contra no_dir
  rw [locate, if_pos (by simp [no_dir])] at located
  cases located

theorem lift_eq_ok {α : Type} {x : Except Errno α} {a : α} : lift x = .ok a ↔ x = .ok a := by
  cases x <;> simp [lift]

theorem spotOf_eq_ok : t.spotOf p = .ok spot ↔ checkName p = .ok () ∧
    ∃ links, t.locate mostLinks (startOf t.current p.raw) (FileTree.steps p.raw) =
      .ok (spot, links) := by
  simp only [spotOf, bind_eq_ok, lift_eq_ok]
  constructor
  · rintro ⟨_, named, ⟨spot', links⟩, located, given⟩
    cases given
    exact ⟨named, links, located⟩
  · rintro ⟨named, links, located⟩
    exact ⟨(), named, (spot, links), located, rfl⟩

theorem find_eq_ok : t.find p = .ok i ↔ checkName p = .ok () ∧ ∃ spot links,
    t.locate mostLinks (startOf t.current p.raw) (stepsInto p.raw) = .ok (spot, links) ∧
      t.arrive links spot = .ok i := by
  simp only [find, bind_eq_ok, lift_eq_ok]
  constructor
  · rintro ⟨_, named, ⟨spot, links⟩, located, arrived⟩
    exact ⟨named, spot, links, located, arrived⟩
  · rintro ⟨named, spot, links, located, arrived⟩
    exact ⟨(), named, (spot, links), located, arrived⟩

theorem isDir_iff : t.isDir p = true ↔ ∃ i, t.find p = .ok i ∧ t.isDirNode i = true := by
  unfold isDir
  split <;> simp_all

theorem locate_append (more : rest ≠ []) (links : Nat) (dir : NodeId) (first : List Bytes) :
    t.locate links dir (first ++ rest) = t.locate links dir first >>= t.onward rest := by
  fun_induction t.locate links dir first with
  | case1 links dir => rfl
  | case2 links dir p later no_dir =>
    rw [List.cons_append, locate, if_pos no_dir]
    rfl
  | case3 links dir p later is_dir long =>
    rw [List.cons_append, locate, if_neg is_dir, if_pos long]
    rfl
  | case4 links dir later is_dir short ih =>
    rw [List.cons_append, locate, if_neg is_dir, if_neg short, if_pos rfl]
    exact ih
  | case5 links dir later is_dir short here ih =>
    rw [List.cons_append, locate, if_neg is_dir, if_neg short, if_neg here, if_pos rfl]
    exact ih
  | case6 links dir p later is_dir short here up last =>
    rw [List.isEmpty_iff.mp last]
    rfl
  | case7 links dir p later is_dir short here up on missing =>
    rw [List.cons_append, locate, if_neg is_dir, if_neg short, if_neg here, if_neg up,
      if_neg (by simp [more])]
    simp only [missing]
    rfl
  | case8 dir p later is_dir short here up on child entry target link =>
    rw [List.cons_append, locate, if_neg is_dir, if_neg short, if_neg here, if_neg up,
      if_neg (by simp [more])]
    simp only [entry, link]
    rfl
  | case9 dir p later is_dir short here up on child entry target link links ih =>
    rw [List.cons_append, locate, if_neg is_dir, if_neg short, if_neg here, if_neg up,
      if_neg (by simp [more])]
    simpa only [entry, link, List.append_assoc] using ih
  | case10 links dir p later is_dir short here up on child entry no_link ih =>
    rw [List.cons_append, locate, if_neg is_dir, if_neg short, if_neg here, if_neg up,
      if_neg (by simp [more]), entry]
    dsimp only
    split
    · rename_i target link
      exact absurd link (no_link target)
    · exact ih

theorem checked_of_locate {steps : List Bytes}
    (located : t.locate links dir steps = .ok (spot, left)) :
    t.Checked spot ∧ left ≤ links := by
  fun_induction t.locate links dir steps with
  | case1 links dir =>
    cases located
    exact ⟨trivial, Nat.le_refl _⟩
  | case2 links dir p rest no_dir => cases located
  | case3 links dir p rest is_dir long => cases located
  | case4 links dir rest is_dir short ih => exact ih located
  | case5 links dir rest is_dir short here ih => exact ih located
  | case6 links dir p rest is_dir short here up last =>
    cases located
    exact ⟨⟨by simpa using is_dir, Nat.le_of_not_lt short, here, up⟩, Nat.le_refl _⟩
  | case7 links dir p rest is_dir short here up more missing => cases located
  | case8 dir p rest is_dir short here up more child entry target link => cases located
  | case9 dir p rest is_dir short here up more child entry target link links ih =>
    obtain ⟨checked, few⟩ := ih located
    exact ⟨checked, Nat.le_succ_of_le few⟩
  | case10 links dir p rest is_dir short here up more child entry no_link ih => exact ih located

theorem onward_entry (checked : t.Checked (.entry dir name)) (more : rest ≠ []) :
    t.onward rest (.entry dir name, left) =
      match t.entry? dir name with
      | none => .error .noEntry
      | some child =>
        match t.node child with
        | .link target =>
          match left with
          | 0 => .error .linkLoop
          | fewer + 1 => t.locate fewer (startOf dir target) (stepsInto target ++ rest)
        | _ => t.locate left child rest := by
  obtain ⟨is_dir, short, no_dot, no_up⟩ := checked
  have on : ¬ rest.isEmpty = true := by simpa using more
  rw [onward, locate, if_neg (by simp [is_dir]), if_neg (Nat.not_lt.mpr short), if_neg no_dot,
    if_neg no_up]
  exact if_neg on

/-- A way goes on where its spot leads. -/
theorem onward_of_arrive (checked : t.Checked spot) (arrived : t.arrive left spot = .ok i) :
    ∃ fewer, ∀ rest, rest ≠ [] → t.onward rest (spot, left) = t.locate fewer i rest := by
  fun_induction t.arrive left spot with
  | case1 left dir =>
    cases arrived
    exact ⟨left, fun _ _ => rfl⟩
  | case2 left dir name missing => cases arrived
  | case3 dir name child entry target link => cases arrived
  | case4 dir name child entry target link fewer fault far => cases arrived
  | case5 dir name child entry target link fewer spot left near ih =>
    obtain ⟨checked', few⟩ := checked_of_locate near
    obtain ⟨last, on⟩ := ih checked' arrived
    refine ⟨last, fun rest more => ?_⟩
    rw [onward_entry checked more]
    simp only [entry, link]
    rw [locate_append more, near, ← on rest more, Nat.min_eq_left few]
    rfl
  | case6 left dir name child entry no_link =>
    cases arrived
    refine ⟨left, fun rest more => ?_⟩
    rw [onward_entry checked more, entry]
    dsimp only
    split
    · rename_i target link
      exact absurd link (no_link target)
    · rfl

/-- A way that goes on from a spot goes on in a directory to which the spot leads. -/
theorem arrive_of_onward (more : rest ≠ []) (checked : t.Checked spot)
    (on : t.onward rest (spot, left) = .ok found) :
    ∃ i, t.arrive left spot = .ok i ∧ t.isDirNode i = true := by
  fun_induction t.arrive left spot with
  | case1 left dir => exact ⟨dir, rfl, isDirNode_of_locate more on⟩
  | case2 left dir name missing =>
    rw [onward_entry checked more, missing] at on
    cases on
  | case3 dir name child entry target link =>
    rw [onward_entry checked more] at on
    simp only [entry, link] at on
    cases on
  | case4 dir name child entry target link fewer fault far =>
    rw [onward_entry checked more] at on
    simp only [entry, link] at on
    rw [locate_append more, far] at on
    cases on
  | case5 dir name child entry target link fewer spot left near ih =>
    obtain ⟨checked', few⟩ := checked_of_locate near
    rw [onward_entry checked more] at on
    simp only [entry, link] at on
    rw [locate_append more, near] at on
    apply ih checked'
    rwa [Nat.min_eq_left few]
  | case6 left dir name child entry no_link =>
    rw [onward_entry checked more, entry] at on
    dsimp only at on
    split at on
    · rename_i target link
      exact absurd link (no_link target)
    · exact ⟨child, rfl, isDirNode_of_locate more on⟩

theorem locate_stretch {first : List Bytes} (more : rest ≠ [])
    (located : t.locate links dir (first ++ rest) = .ok found) :
    ∃ spot left i fewer, t.locate links dir first = .ok (spot, left) ∧
      t.arrive left spot = .ok i ∧ t.isDirNode i = true ∧
      ∀ rest, rest ≠ [] → t.locate links dir (first ++ rest) = t.locate fewer i rest := by
  rw [locate_append more] at located
  obtain ⟨⟨spot, left⟩, near, on⟩ := bind_eq_ok.mp located
  have checked := (checked_of_locate near).1
  obtain ⟨i, arrived, is_dir⟩ := arrive_of_onward more checked on
  obtain ⟨fewer, same⟩ := onward_of_arrive checked arrived
  refine ⟨spot, left, i, fewer, near, arrived, is_dir, fun rest more => ?_⟩
  rw [locate_append more, near, ← same rest more]
  rfl

theorem locate_one (is_dir : t.isDirNode dir = true) (no_dot : name ≠ [Path.dot])
    (no_up : name ≠ [Path.dot, Path.dot]) (located : t.locate links dir [name] = .ok found) :
    found = (.entry dir name, links) := by
  rw [locate, if_neg (by simp [is_dir]), if_neg no_dot, if_neg no_up] at located
  split at located
  · cases located
  · cases located
    rfl

theorem locate_here (is_dir : t.isDirNode dir = true) :
    t.locate links dir [[Path.dot]] = .ok (.here dir, links) := by
  rw [locate, if_neg (by simp [is_dir]), if_neg (by decide), if_pos rfl, locate]

theorem ne_dots_of_locate {d : NodeId} {m : Bytes}
    (located : t.locate links dir [name] = .ok (.entry d m, left)) :
    name ≠ [Path.dot] ∧ name ≠ [Path.dot, Path.dot] := by
  have is_dir := isDirNode_of_locate (List.cons_ne_nil name []) located
  constructor
  · rintro rfl
    rw [locate_here is_dir] at located
    cases located
  · rintro rfl
    rw [locate, if_neg (by simp [is_dir]), if_neg (by decide), if_neg (by decide), if_pos rfl,
      locate] at located
    cases located

theorem locate_named {first : List Bytes} (no_dot : name ≠ [Path.dot])
    (no_up : name ≠ [Path.dot, Path.dot])
    (located : t.locate links dir (first ++ [name]) = .ok found) :
    ∃ d, found.1 = .entry d name ∧ t.isDirNode d = true := by
  obtain ⟨spot, left, i, fewer, -, -, is_dir, same⟩ :=
    locate_stretch (List.cons_ne_nil name []) located
  rw [same _ (List.cons_ne_nil name [])] at located
  exact ⟨i, congrArg Prod.fst (locate_one is_dir no_dot no_up located), is_dir⟩

theorem find_dir_iff (is_dir : t.isDirNode i = true) : t.find p = .ok i ↔
    checkName p = .ok () ∧ ∃ spot left,
      t.locate mostLinks (startOf t.current p.raw) (steps p.raw) = .ok (spot, left) ∧
        t.arrive left spot = .ok i := by
  rw [find_eq_ok, stepsInto]
  apply and_congr_right
  intro named
  split
  · have more := List.cons_ne_nil [Path.dot] []
    constructor
    · rintro ⟨spot, left, located, arrived⟩
      obtain ⟨spot', left', k, fewer, near, arrived', dir', same⟩ := locate_stretch more located
      rw [same _ more, locate_here dir'] at located
      cases located
      rw [arrive] at arrived
      cases arrived
      exact ⟨spot', left', near, arrived'⟩
    · rintro ⟨spot, left, near, arrived⟩
      obtain ⟨fewer, same⟩ := onward_of_arrive (checked_of_locate near).1 arrived
      refine ⟨.here i, fewer, ?_, by rw [arrive]⟩
      rw [locate_append more, near, ← locate_here is_dir, ← same _ more]
      rfl
  · rfl

theorem isDirNode_of_slash (slash : p.raw.getLast? = some Path.slash) (found : t.find p = .ok i) :
    t.isDirNode i = true := by
  have more := List.cons_ne_nil [Path.dot] []
  obtain ⟨-, spot, left, located, arrived⟩ := find_eq_ok.mp found
  rw [stepsInto, if_pos slash] at located
  obtain ⟨-, -, k, fewer, -, -, is_dir, same⟩ := locate_stretch more located
  rw [same _ more, locate_here is_dir] at located
  cases located
  rw [arrive] at arrived
  cases arrived
  exact is_dir

theorem lookup_of_slash (slash : p.raw.getLast? = some Path.slash) (c : Bytes) :
    t.lookup p ≠ some (.ok c) := by
  unfold lookup holds read
  cases found : t.find p with
  | error fault => simp
  | ok i =>
    obtain ⟨parent, es, closed, listed⟩ := isDirNode_iff.mp (isDirNode_of_slash slash found)
    simp [bind, Except.bind, listed]

theorem locate_below (found : t.find p = .ok i) (is_dir : t.isDirNode i = true) :
    ∃ fewer, ∀ rest, rest ≠ [] →
      t.locate mostLinks (startOf t.current p.raw) (steps p.raw ++ rest) = t.locate fewer i rest := by
  obtain ⟨-, spot, left, near, arrived⟩ := (find_dir_iff is_dir).mp found
  obtain ⟨fewer, same⟩ := onward_of_arrive (checked_of_locate near).1 arrived
  refine ⟨fewer, fun rest more => ?_⟩
  rw [locate_append more, near, ← same rest more]
  rfl

theorem isDir_of_below (named : checkName p = .ok ())
    (more : rest ≠ [])
    (located : t.locate mostLinks (startOf t.current p.raw) (steps p.raw ++ rest) = .ok found) :
    t.isDir p = true := by
  obtain ⟨spot, left, i, fewer, near, arrived, is_dir, -⟩ := locate_stretch more located
  exact isDir_iff.mpr ⟨i, (find_dir_iff is_dir).mpr ⟨named, spot, left, near, arrived⟩, is_dir⟩

end

end MountProbe.FileTree
