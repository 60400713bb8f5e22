import MountProbe.Proofs.FileTree.Ways

namespace MountProbe.FileTree

/-- What is read where an entry leads, if that is a file. -/
def held (t : FileTree) (d : NodeId) (n : Bytes) : Option Bytes :=
  match t.arrive mostLinks (.entry d n) with
  | .ok i => t.contents? i
  | .error _ => none

/-- What the file at an entry holds, where that is no link. -/
def heldAt (t : FileTree) (d : NodeId) (n : Bytes) : Option Bytes :=
  (t.entry? d n).bind t.contents?

/-- The file at an entry holds what it held before, and where there was none there is none. -/
structure Kept (d : NodeId) (n : Bytes) (t u : FileTree) : Prop where
  held : ∀ c, t.held d n = some c → u.held d n = some c
  absent : t.heldAt d n = none → u.heldAt d n = none

section

variable {t u v : FileTree} {i d dir parent : NodeId} {c n name : Bytes} {links : Nat} {spot : Spot}
  {es : List (Bytes × NodeId)} {closed : Bool} {p : Path}

theorem Kept.refl (t : FileTree) : Kept d n t t :=
  ⟨fun _ h => h, fun h => h⟩

theorem Kept.trans (first : Kept d n t u) (last : Kept d n u v) : Kept d n t v where
  held c h := last.held c (first.held c h)
  absent h := last.absent (first.absent h)

theorem held_eq_some : t.held d n = some c ↔
    ∃ i, t.arrive mostLinks (.entry d n) = .ok i ∧ t.contents? i = some c := by
  unfold held
  split <;> simp_all

theorem held_of_entry (entry : t.entry? d n = some i) (there : t.contents? i = some c) :
    t.held d n = some c := by
  refine held_eq_some.mpr ⟨i, ?_, there⟩
  rw [arrive]
  simp only [entry, node_of_contents there]

theorem contents?_of_isDirNode (is_dir : t.isDirNode i = true) : t.contents? i = none := by
  cases there : t.contents? i with
  | none => rfl
  | some c =>
    rw [isDirNode_of_contents there] at is_dir
    cases is_dir

theorem held_of_dir (entry : t.entry? d n = some i) (is_dir : t.isDirNode i = true) :
    t.held d n = none := by
  obtain ⟨parent, es, closed, listed⟩ := isDirNode_iff.mp is_dir
  rw [held, arrive]
  simp only [entry, listed, contents?_of_isDirNode is_dir]

theorem heldAt_of_dir (entry : t.entry? d n = some i) (is_dir : t.isDirNode i = true) :
    t.heldAt d n = none := by
  rw [heldAt, entry, Option.bind_some, contents?_of_isDirNode is_dir]

/-- All files are still there, and so is every way to one. -/
structure Spares (t u : FileTree) : Prop where
  routes : Routes t u
  entries : ∀ d n child c, t.entry? d n = some child → t.contents? child = some c →
    u.entry? d n = some child
  contents : ∀ i c, t.contents? i = some c → u.contents? i = some c

theorem Spares.arrive (spares : Spares t u) (arrived : t.arrive links spot = .ok i)
    (there : t.contents? i = some c) : u.arrive links spot = .ok i := by
  apply arrive_of_routes spares.routes _ _ arrived
  · intro d n entry
    exact spares.entries d n i c entry there
  · intro target link
    rw [node_of_contents (spares.contents i c there)] at link
    cases link

theorem Spares.held (spares : Spares t u) (there : t.held d n = some c) :
    u.held d n = some c := by
  obtain ⟨i, arrived, here⟩ := held_eq_some.mp there
  exact held_eq_some.mpr ⟨i, spares.arrive arrived here, spares.contents i c here⟩

theorem contents?_of_node (no_file : ∀ c, t.node i ≠ .file c) : t.contents? i = none := by
  cases there : t.contents? i with
  | none => rfl
  | some c => exact absurd (node_of_contents there) (no_file c)

theorem contents?_setDir {parent' : NodeId} {es' : List (Bytes × NodeId)} {closed' : Bool}
    (listed : t.node dir = .dir parent es closed) (i : NodeId) :
    (t.setNode dir (.dir parent' es' closed')).contents? i = t.contents? i := by
  by_cases own : i = dir
  · rw [own, contents?_of_node (by simp [node_setNode_self (lt_of_node listed (by simp))]),
      contents?_of_node (by simp [listed])]
  · exact contents?_congr (getElem?_setNode_ne own)

theorem routes_setDir (listed : t.node dir = .dir parent es closed)
    (es' : List (Bytes × NodeId))
    (kept : ∀ m child, t.entry? dir m = some child → t.LeadsOn child →
      entry? (t.setNode dir (.dir parent es' closed)) dir m = some child) :
    Routes t (t.setNode dir (.dir parent es' closed)) where
  dirs i is_dir := by
    by_cases own : i = dir
    · rw [own, isDirNode, parentOf, parentOf, node_setNode_self (lt_of_node listed (by simp)),
        listed]
      exact ⟨rfl, rfl⟩
    · rw [isDirNode, parentOf, parentOf, node_setNode_ne own]
      exact ⟨is_dir, rfl⟩
  links i target link := by
    rw [node_setNode_ne, link]
    rintro rfl
    rw [listed] at link
    cases link
  entries e m child entry on := by
    by_cases own : e = dir
    · subst own
      exact kept m child entry on
    · rw [entry?_congr (node_setNode_ne own)]
      exact entry

theorem contents?_addEntry (t : FileTree) (dir : NodeId) (name : Bytes) (i j : NodeId) :
    (t.addEntry dir name i).contents? j = t.contents? j := by
  unfold addEntry
  split
  · rename_i parent es closed listed
    exact contents?_setDir listed j
  · rfl

theorem contents?_dropEntry (t : FileTree) (dir : NodeId) (name : Bytes) (j : NodeId) :
    (t.dropEntry dir name).contents? j = t.contents? j := by
  unfold dropEntry
  split
  · rename_i parent es closed listed
    exact contents?_setDir listed j
  · rfl

theorem LeadsOn.of_routes (on : t.LeadsOn i) (routes : Routes t u) : u.LeadsOn i := by
  rcases on with is_dir | ⟨target, link⟩
  · exact .inl (routes.dirs i is_dir).1
  · exact .inr ⟨target, routes.links i target link⟩

theorem Routes.trans (first : Routes t u) (last : Routes u v) : Routes t v where
  dirs i is_dir := by
    obtain ⟨still, above⟩ := first.dirs i is_dir
    obtain ⟨still', above'⟩ := last.dirs i still
    exact ⟨still', above'.trans above⟩
  links i target link := last.links i target (first.links i target link)
  entries d n child entry on :=
    last.entries d n child (first.entries d n child entry on) (on.of_routes first)

/-- Only new entries have come, and none of them is a file. -/
structure Grown (t u : FileTree) : Prop where
  current : u.current = t.current
  routes : Routes t u
  entries : ∀ d n child, t.entry? d n = some child → u.entry? d n = some child
  contents : ∀ i, u.contents? i = t.contents? i
  new : ∀ d n child, t.entry? d n = none → u.entry? d n = some child → u.contents? child = none

theorem Grown.refl (t : FileTree) : Grown t t where
  current := rfl
  routes := ⟨fun _ h => ⟨h, rfl⟩, fun _ _ h => h, fun _ _ _ h _ => h⟩
  entries _ _ _ h := h
  contents _ := rfl
  new d n child missing there := by
    rw [missing] at there
    cases there

theorem Grown.trans (first : Grown t u) (last : Grown u v) : Grown t v where
  current := last.current.trans first.current
  routes := first.routes.trans last.routes
  entries d n child h := last.entries d n child (first.entries d n child h)
  contents i := (last.contents i).trans (first.contents i)
  new d n child missing there := by
    cases between : u.entry? d n with
    | none => exact last.new d n child between there
    | some other =>
      have same := last.entries d n other between
      rw [there] at same
      cases same
      rw [last.contents]
      exact first.new d n child missing between

theorem Grown.spares (h : Grown t u) : Spares t u where
  routes := h.routes
  entries d n child _ entry _ := h.entries d n child entry
  contents i _ there := (h.contents i).trans there

theorem Grown.kept (h : Grown t u) : Kept d n t u where
  held _ there := h.spares.held there
  absent none_there := by
    rw [heldAt] at none_there ⊢
    cases entry : t.entry? d n with
    | some child =>
      rw [h.entries d n child entry, Option.bind_some, h.contents]
      rwa [entry] at none_there
    | none =>
      cases later : u.entry? d n with
      | none => rfl
      | some child => exact h.new d n child entry later

theorem grown_addEntry (listed : t.node dir = .dir parent es closed)
    (no_file : t.contents? i = none) : Grown t (t.addEntry dir name i) := by
  have kept : ∀ e m child, t.entry? e m = some child →
      entry? (t.addEntry dir name i) e m = some child := by
    intro e m child entry
    by_cases own : e = dir
    · rw [own, entry?_addEntry listed, ← own, entry, Option.some_or]
    · rw [addEntry, listed, entry?_congr (node_setNode_ne own)]
      exact entry
  refine ⟨?_, ?_, kept, contents?_addEntry t dir name i, ?_⟩
  · rw [addEntry, listed]
    rfl
  · have routes := routes_setDir listed (es ++ [(name, i)])
    rw [addEntry, listed] at kept ⊢
    exact routes fun m child entry _ => kept dir m child entry
  · intro e m child missing there
    rw [contents?_addEntry]
    by_cases own : e = dir
    · rw [own, entry?_addEntry listed, ← own, missing, Option.none_or] at there
      split at there
      · cases there
        exact no_file
      · cases there
    · rw [addEntry, listed, entry?_congr (node_setNode_ne own), missing] at there
      cases there

def withDir (t : FileTree) (above : NodeId) : FileTree :=
  { t with nodes := t.nodes.push (.dir above [] false) }

theorem getElem?_withDir_ne {above : NodeId} (other : i ≠ t.nodes.size) :
    (t.withDir above).nodes[i]? = t.nodes[i]? := by
  rw [withDir, Array.getElem?_push, if_neg other]

theorem node_withDir_ne {above : NodeId} (other : i ≠ t.nodes.size) :
    (t.withDir above).node i = t.node i := by
  rw [node, node, Array.getD_eq_getD_getElem?, Array.getD_eq_getD_getElem?,
    getElem?_withDir_ne other]

theorem node_withDir (t : FileTree) (above : NodeId) :
    (t.withDir above).node t.nodes.size = .dir above [] false := by
  refine node_of_getElem? ?_
  rw [withDir, Array.getElem?_push, if_pos rfl]

theorem node_size (t : FileTree) : t.node t.nodes.size = .file [] := by
  rw [node, Array.getD_eq_getD_getElem?, Array.getElem?_eq_none (Nat.le_refl _)]
  rfl

theorem entry?_withDir (t : FileTree) (above d : NodeId) (n : Bytes) :
    entry? (t.withDir above) d n = t.entry? d n := by
  by_cases last : d = t.nodes.size
  · rw [last, entry?_of_dir (node_withDir t above), entry?_of_file (node_size t)]
    rfl
  · exact entry?_congr (node_withDir_ne last)

theorem grown_withDir (t : FileTree) (above : NodeId) : Grown t (t.withDir above) := by
  have inside : ∀ i n, t.node i = n → n ≠ .file [] → i ≠ t.nodes.size := by
    rintro i n found no_file rfl
    exact no_file (found.symm.trans (node_size t))
  refine ⟨rfl, ⟨fun i is_dir => ?_, fun i target link => ?_, ?_⟩, ?_, fun i => ?_, ?_⟩
  · obtain ⟨parent, es, closed, listed⟩ := isDirNode_iff.mp is_dir
    rw [isDirNode, parentOf, parentOf, node_withDir_ne (inside i _ listed (by simp)), listed]
    exact ⟨rfl, rfl⟩
  · rw [node_withDir_ne (inside i _ link (by simp)), link]
  · intro e m child entry _
    rw [entry?_withDir, entry]
  · intro e m child entry
    rw [entry?_withDir, entry]
  · by_cases last : i = t.nodes.size
    · rw [last, contents?_of_node (by simp [node_withDir]), contents?,
        Array.getElem?_eq_none (Nat.le_refl _)]
    · exact contents?_congr (getElem?_withDir_ne last)
  · intro e m child missing there
    rw [entry?_withDir, missing] at there
    cases there

theorem made_of_makeDir (made : t.makeDir p = .ok u) : ∃ d n parent es,
    t.spotOf p = .ok (.entry d n) ∧ t.entry? d n = none ∧ t.node d = .dir parent es false ∧
      u = (t.withDir d).addEntry d n t.nodes.size := by
  unfold makeDir at made
  obtain ⟨spot, spotted, made⟩ := bind_eq_ok.mp made
  cases spot with
  | here d => cases made
  | entry d n =>
    dsimp only at made
    split at made
    · cases made
    · rename_i missing
      obtain ⟨⟨u', i⟩, created, same⟩ := bind_eq_ok.mp made
      cases same
      have created := lift_eq_ok.mp created
      unfold create at created
      split at created
      · cases created
      · rename_i parent es listed
        cases created
        exact ⟨d, n, parent, es, spotted, missing, listed, rfl⟩
      · cases created

theorem ne_size_of_dir (listed : t.node dir = .dir parent es closed) : dir ≠ t.nodes.size :=
  Nat.ne_of_lt (lt_of_node listed (by simp))

theorem node_withDir_of_dir {above : NodeId} (listed : t.node dir = .dir parent es closed) :
    (t.withDir above).node dir = .dir parent es closed :=
  (node_withDir_ne (ne_size_of_dir listed)).trans listed

theorem grown_makeDir (made : t.makeDir p = .ok u) : Grown t u := by
  obtain ⟨d, n, parent, es, -, -, listed, rfl⟩ := made_of_makeDir made
  exact (grown_withDir t d).trans
    (grown_addEntry (node_withDir_of_dir listed) (contents?_of_node (by simp [node_withDir])))

theorem grown_makeDirs (fuel : Nat) (t : FileTree) (p : Path) : Grown t (makeDirs fuel t p).1 :=
  makeDirs_related .refl .trans (fun _ => grown_makeDir) (fun _ _ => trivial) fuel t trivial

end

end MountProbe.FileTree
