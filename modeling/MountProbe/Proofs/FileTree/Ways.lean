import MountProbe.Proofs.FileTree.Stretches
import MountProbe.Proofs.Path.Pieces

namespace MountProbe.FileTree

section

variable {t u v : FileTree} {i dir parent : NodeId} {c : Bytes} {name : Bytes} {p : Path}
  {es : List (Bytes × NodeId)} {links : Nat} {steps : List Bytes}

/-- A way may go on through this node. -/
def LeadsOn (t : FileTree) (i : NodeId) : Prop :=
  t.isDirNode i = true ∨ ∃ target, t.node i = .link target

/-- Whatever a way goes on through is still there. -/
structure Routes (t u : FileTree) : Prop where
  dirs : ∀ i, t.isDirNode i = true → u.isDirNode i = true ∧ u.parentOf i = t.parentOf i
  links : ∀ i target, t.node i = .link target → u.node i = .link target
  entries : ∀ d n child, t.entry? d n = some child → t.LeadsOn child → u.entry? d n = some child

/-- Every way through directories and links is still there. -/
structure Ways (t u : FileTree) : Prop where
  current : u.current = t.current
  dirs : ∀ i, t.isDirNode i = true → u.isDirNode i = true ∧ u.parentOf i = t.parentOf i
  links : ∀ i target, t.node i = .link target → u.node i = .link target
  others : ∀ i, (∀ c, t.node i ≠ .file c) → ∀ c, u.node i ≠ .file c
  entries : ∀ d n child, t.entry? d n = some child → (∀ c, t.node child ≠ .file c) →
    u.entry? d n = some child

theorem Ways.refl (t : FileTree) : Ways t t :=
  ⟨rfl, fun _ h => ⟨h, rfl⟩, fun _ _ h => h, fun _ h => h, fun _ _ _ h _ => h⟩

theorem Ways.trans (first : Ways t u) (last : Ways u v) : Ways t v where
  current := last.current.trans first.current
  dirs i is_dir := by
    obtain ⟨still, above⟩ := first.dirs i is_dir
    obtain ⟨still', above'⟩ := last.dirs i still
    exact ⟨still', above'.trans above⟩
  links i target link := last.links i target (first.links i target link)
  others i no_file := last.others i (first.others i no_file)
  entries d n child entry no_file :=
    last.entries d n child (first.entries d n child entry no_file) (first.others child no_file)

theorem LeadsOn.no_file (h : t.LeadsOn i) (c : Bytes) : t.node i ≠ .file c := by
  intro file
  rcases h with is_dir | ⟨target, link⟩
  · obtain ⟨parent, es, closed, dir⟩ := isDirNode_iff.mp is_dir
    rw [dir] at file
    cases file
  · rw [link] at file
    cases file

theorem Ways.routes (h : Ways t u) : Routes t u :=
  ⟨h.dirs, h.links, fun d n child entry on => h.entries d n child entry on.no_file⟩

theorem locate_of_routes (routes : Routes t u) {found : Spot × Nat}
    (located : t.locate links dir steps = .ok found) : u.locate links dir steps = .ok found := by
  fun_induction t.locate links dir steps with
  | case1 links dir => rwa [locate]
  | case2 links dir p rest no_dir => cases located
  | case3 links dir p rest is_dir long => cases located
  | case4 links dir rest is_dir short ih =>
    obtain ⟨still, -⟩ := routes.dirs dir (by simpa using is_dir)
    rw [locate, still, if_neg (by simp), if_neg short, if_pos rfl]
    exact ih located
  | case5 links dir rest is_dir short here ih =>
    obtain ⟨still, above⟩ := routes.dirs dir (by simpa using is_dir)
    rw [locate, still, above, if_neg (by simp), if_neg short, if_neg here, if_pos rfl]
    exact ih located
  | case6 links dir p rest is_dir short here up last =>
    obtain ⟨still, -⟩ := routes.dirs dir (by simpa using is_dir)
    rwa [locate, still, if_neg (by simp), if_neg short, if_neg here, if_neg up, if_pos last]
  | case7 links dir p rest is_dir short here up more missing => cases located
  | case8 dir p rest is_dir short here up more child entry target link => cases located
  | case9 dir p rest is_dir short here up more child entry target link links ih =>
    obtain ⟨still, -⟩ := routes.dirs dir (by simpa using is_dir)
    have kept := routes.entries dir p child entry (.inr ⟨target, link⟩)
    rw [locate, still, if_neg (by simp), if_neg short, if_neg here, if_neg up, if_neg more]
    simpa only [kept, routes.links child target link] using ih located
  | case10 links dir p rest is_dir short here up more child entry no_link ih =>
    obtain ⟨still, -⟩ := routes.dirs dir (by simpa using is_dir)
    -- The way goes on below the child, so that it is a directory and no file.
    have below := isDirNode_of_locate (by simpa using more) located
    have kept := routes.entries dir p child entry (.inl below)
    obtain ⟨q, es, closed, child_still⟩ := isDirNode_iff.mp (routes.dirs child below).1
    rw [locate, still, if_neg (by simp), if_neg short, if_neg here, if_neg up, if_neg more]
    simpa only [kept, child_still] using ih located

theorem locate_of_ways (ways : Ways t u) {found : Spot × Nat}
    (located : t.locate links dir steps = .ok found) : u.locate links dir steps = .ok found :=
  locate_of_routes ways.routes located

theorem arrive_of_routes {spot : Spot} (routes : Routes t u)
    (entries : ∀ d n, t.entry? d n = some i → u.entry? d n = some i)
    (no_link : ∀ target, u.node i = .link target → t.node i = .link target)
    (arrived : t.arrive links spot = .ok i) : u.arrive links spot = .ok i := by
  fun_induction t.arrive links spot with
  | case1 links dir => rwa [arrive]
  | case2 links dir name missing => cases arrived
  | case3 dir name child entry target link => cases arrived
  | case4 dir name child entry target link fewer fault far => cases arrived
  | case5 dir name child entry target link fewer spot left near ih =>
    have kept := routes.entries dir name child entry (.inr ⟨target, link⟩)
    rw [arrive]
    simpa only [kept, routes.links child target link, locate_of_routes routes near] using ih arrived
  | case6 links dir name child entry no_link' =>
    cases arrived
    rw [arrive, entries dir name entry]
    dsimp only
    split
    · rename_i target link
      exact absurd (no_link target link) (no_link' target)
    · rfl

theorem arrive_of_ways (ways : Ways t u) {spot : Spot} (arrived : t.arrive links spot = .ok i)
    (is_dir : t.isDirNode i = true) : u.arrive links spot = .ok i := by
  apply arrive_of_routes ways.routes _ _ arrived
  · intro d n entry
    apply ways.entries d n i entry
    exact LeadsOn.no_file (.inl is_dir)
  · intro target link
    obtain ⟨q, es, closed, still⟩ := isDirNode_iff.mp (ways.dirs i is_dir).1
    rw [still] at link
    cases link

theorem spotOf_of_routes (current : u.current = t.current) (routes : Routes t u) {spot : Spot}
    (found : t.spotOf p = .ok spot) : u.spotOf p = .ok spot := by
  obtain ⟨named, links, located⟩ := spotOf_eq_ok.mp found
  rw [← current] at located
  exact spotOf_eq_ok.mpr ⟨named, links, locate_of_routes routes located⟩

theorem find_of_routes (current : u.current = t.current) (routes : Routes t u)
    (entries : ∀ d n, t.entry? d n = some i → u.entry? d n = some i)
    (no_link : ∀ target, u.node i = .link target → t.node i = .link target)
    (found : t.find p = .ok i) : u.find p = .ok i := by
  obtain ⟨named, spot, links, located, arrived⟩ := find_eq_ok.mp found
  rw [← current] at located
  exact find_eq_ok.mpr ⟨named, spot, links, locate_of_routes routes located,
    arrive_of_routes routes entries no_link arrived⟩

theorem spotOf_of_ways (ways : Ways t u) {spot : Spot} (found : t.spotOf p = .ok spot) :
    u.spotOf p = .ok spot :=
  spotOf_of_routes ways.current ways.routes found

theorem isDir_of_ways (ways : Ways t u) (there : t.isDir p = true) : u.isDir p = true := by
  obtain ⟨i, found, is_dir⟩ := isDir_iff.mp there
  obtain ⟨named, spot, links, located, arrived⟩ := find_eq_ok.mp found
  rw [← ways.current] at located
  exact isDir_iff.mpr ⟨i, find_eq_ok.mpr ⟨named, spot, links, locate_of_ways ways located,
    arrive_of_ways ways arrived is_dir⟩, (ways.dirs i is_dir).1⟩

theorem isSome_of_arrive {spot : Spot} (arrived : t.arrive links spot = .ok i) :
    ∀ d n, spot = .entry d n → (t.entry? d n).isSome := by
  rintro d n rfl
  cases there : t.entry? d n with
  | some child => rfl
  | none =>
    rw [arrive] at arrived
    simp only [there] at arrived
    cases arrived

theorem spotOf_of_find (found : t.find p = .ok i) :
    ∃ spot, t.spotOf p = .ok spot ∧ ∀ d n, spot = .entry d n → (t.entry? d n).isSome := by
  obtain ⟨named, spot, links, located, arrived⟩ := find_eq_ok.mp found
  rw [stepsInto] at located
  split at located
  · obtain ⟨spot', left, k, fewer, near, arrived', -, -⟩ :=
      locate_stretch (List.cons_ne_nil [Path.dot] []) located
    exact ⟨spot', spotOf_eq_ok.mpr ⟨named, left, near⟩, isSome_of_arrive arrived'⟩
  · exact ⟨spot, spotOf_eq_ok.mpr ⟨named, links, located⟩, isSome_of_arrive arrived⟩

theorem makeDir_of_isDir (there : t.isDir p = true) :
    t.makeDir p = .error (.os .alreadyExists) := by
  obtain ⟨i, found, is_dir⟩ := isDir_iff.mp there
  obtain ⟨spot, spotted, entry⟩ := spotOf_of_find found
  rw [makeDir, spotted]
  cases spot with
  | here d => rfl
  | entry d n =>
    obtain ⟨child, taken⟩ := Option.isSome_iff_exists.mp (entry d n rfl)
    simp only [bind, Except.bind, taken]

theorem makeDirs_of_isDir (there : t.isDir p = true) (fuel : Nat) :
    makeDirs (fuel + 1) t p = (t, .ok ()) := by
  rw [makeDirs]
  split
  · rfl
  · rw [makeDir_of_isDir there]
    simp [IoFault.isMissing, Errno.alreadyExists, Errno.noEntry]

theorem makeDirs_of_isEmpty (here : p.isEmpty = true) (fuel : Nat) :
    makeDirs (fuel + 1) t p = (t, .ok ()) := by
  rw [makeDirs, if_pos here]

theorem makeAll_of_isDir (there : t.isDir p = true) : t.makeAll p = (t, .ok ()) :=
  makeDirs_of_isDir there _

theorem makeAll_of_isEmpty (here : p.isEmpty = true) : t.makeAll p = (t, .ok ()) :=
  makeDirs_of_isEmpty here _

/-- What each new directory brings about, all that are made bring about together: the one that is
named and those above it. -/
theorem makeDirs_related {related : FileTree → FileTree → Prop} {named : Path → Prop}
    (refl : ∀ t, related t t) (trans : ∀ {t u v}, related t u → related u v → related t v)
    (made : ∀ {t u p}, named p → t.makeDir p = .ok u → related t u)
    (upward : ∀ {p above}, named p → p.parent? = some above → named above) (fuel : Nat)
    (t : FileTree) (own : named p) : related t (makeDirs fuel t p).1 := by
  induction fuel generalizing t p with
  | zero => exact refl t
  | succ fuel ih =>
    rw [makeDirs]
    split
    · exact refl t
    split
    · rename_i u first
      exact made own first
    · split
      · exact refl t
      · split
        · exact refl t
        · rename_i above up
          have upper := ih t (upward own up)
          split
          · rename_i u fault same
            rwa [same] at upper
          · rename_i u same
            rw [same] at upper
            split
            · rename_i v last
              exact trans upper (made own last)
            · exact upper

def Plain (n : Bytes) : Prop :=
  Path.slash ∉ n ∧ 0 ∉ n ∧ Path.isIdle n = false ∧ n ≠ [Path.dot, Path.dot] ∧
    n.length ≤ longestName
deriving Decidable

theorem parent?_of_plain (plain : Plain name) : (Path.mk name).parent? = some ⟨[]⟩ := by
  obtain ⟨no_slash, -, no_idle, -, -⟩ := plain
  have no_start : Path.start name = none := by
    match name with
    | [] => rfl
    | [b] =>
      simp only [Path.isIdle, List.mem_singleton] at no_slash no_idle
      simp_all [Path.start, eq_comm]
    | b :: c :: rest =>
      simp only [List.mem_cons, not_or] at no_slash
      rw [Path.start, if_neg (Ne.symm no_slash.1), if_neg fun both => no_slash.2.1 both.2.symm]
  have body_eq : (Path.mk name).body = [name] := by
    simp only [Path.body, no_start, Path.splitAtSlashes_of_no_slash no_slash]
  have head_eq : (Path.mk name).head = [] := by
    simp only [Path.head, no_start]
  rw [Path.parent?, body_eq, head_eq]
  simp [Path.dropIdleEnd, Path.joinPieces, no_idle]

theorem spotOf_of_plain (plain : Plain name) (is_dir : t.isDirNode t.current = true) :
    t.spotOf ⟨name⟩ = .ok (.entry t.current name) := by
  obtain ⟨no_slash, no_zero, no_idle, no_up, short⟩ := plain
  have idle : ¬(name = [] ∨ name = [Path.dot]) := by
    simpa [Path.isIdle] using no_idle
  have not_empty : name ≠ [] := fun empty => idle (.inl empty)
  have steps_eq : FileTree.steps name = [name] := by
    rw [FileTree.steps, Path.splitAtSlashes_of_no_slash no_slash]
    simp [not_empty]
  have start_eq : startOf t.current name = t.current := by
    rw [startOf, if_neg]
    intro first
    exact no_slash (List.mem_of_mem_head? first)
  refine spotOf_eq_ok.mpr ⟨?_, mostLinks, ?_⟩
  · rw [checkName, if_neg (by simpa using no_zero), if_neg (by simpa using not_empty), if_neg]
    simp only [longestName, longestPath] at short ⊢
    omega
  · rw [steps_eq, start_eq, locate, is_dir, if_neg (by simp), if_neg (by omega),
      if_neg fun here => idle (.inr here), if_neg no_up]
    rfl

end

end MountProbe.FileTree
