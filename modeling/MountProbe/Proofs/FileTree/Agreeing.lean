import MountProbe.Proofs.FileTree.Files
import MountProbe.Proofs.FileTree.Held

namespace MountProbe.FileTree

/-- The same nodes apart from one, whatever directories list. -/
structure Alike (i : NodeId) (t u : FileTree) : Prop where
  current : u.current = t.current
  dirs : ∀ j, u.isDirNode j = t.isDirNode j
  above : ∀ j, u.parentOf j = t.parentOf j
  nodes : ∀ j, j ≠ i → t.isDirNode j = false → u.node j = t.node j

structure Agree (i : NodeId) (t u : FileTree) : Prop extends Alike i t u where
  entries : ∀ d n child, child ≠ i → (u.entry? d n = some child ↔ t.entry? d n = some child)
  ends : ¬ t.LeadsOn i ∧ ¬ u.LeadsOn i

section

variable {t u v : FileTree} {i j d e dir parent : NodeId} {c bytes n m : Bytes} {p : Path}
  {es es' : List (Bytes × NodeId)} {closed : Bool} {links : Nat} {spot : Spot}

theorem Alike.refl (i : NodeId) (t : FileTree) : Alike i t t :=
  ⟨rfl, fun _ => rfl, fun _ => rfl, fun _ _ _ => rfl⟩

theorem Alike.symm (alike : Alike i t u) : Alike i u t where
  current := alike.current.symm
  dirs j := (alike.dirs j).symm
  above j := (alike.above j).symm
  nodes j other no_dir := (alike.nodes j other ((alike.dirs j).symm.trans no_dir)).symm

theorem Alike.trans (first : Alike i t u) (last : Alike i u v) : Alike i t v where
  current := last.current.trans first.current
  dirs j := (last.dirs j).trans (first.dirs j)
  above j := (last.above j).trans (first.above j)
  nodes j other no_dir :=
    (last.nodes j other ((first.dirs j).trans no_dir)).trans (first.nodes j other no_dir)

theorem alike_setDir (i : NodeId) (listed : t.node dir = .dir parent es closed)
    (es' : List (Bytes × NodeId)) : Alike i t (t.setNode dir (.dir parent es' closed)) := by
  have new := node_setNode_self (n := .dir parent es' closed) (lt_of_node listed (by simp))
  refine ⟨rfl, fun j => ?_, fun j => ?_, fun j _ no_dir => node_setNode_ne ?_⟩
  · by_cases own : j = dir
    · rw [own, isDirNode, isDirNode, new, listed]
    · rw [isDirNode, isDirNode, node_setNode_ne own]
  · by_cases own : j = dir
    · rw [own, parentOf, parentOf, new, listed]
    · rw [parentOf, parentOf, node_setNode_ne own]
  · rintro rfl
    rw [isDirNode, listed] at no_dir
    cases no_dir

theorem alike_dropEntry (i : NodeId) (t : FileTree) (d : NodeId) (n : Bytes) :
    Alike i t (t.dropEntry d n) := by
  unfold dropEntry
  split
  · rename_i parent es closed listed
    exact alike_setDir i listed _
  · exact .refl i t

theorem alike_addEntry (i : NodeId) (t : FileTree) (d : NodeId) (n : Bytes) (j : NodeId) :
    Alike i t (t.addEntry d n j) := by
  unfold addEntry
  split
  · rename_i parent es closed listed
    exact alike_setDir i listed _
  · exact .refl i t

theorem alike_setFile (there : t.contents? i = some c) (bytes : Bytes) :
    Alike i t (t.setNode i (.file bytes)) := by
  have new := node_setNode_self (n := .file bytes) (lt_of_contents there)
  have old := node_of_contents there
  refine ⟨rfl, fun j => ?_, fun j => ?_, fun j other _ => node_setNode_ne other⟩
  · by_cases own : j = i
    · rw [own, isDirNode, isDirNode, new, old]
    · rw [isDirNode, isDirNode, node_setNode_ne own]
  · by_cases own : j = i
    · rw [own, parentOf, parentOf, new, old]
    · rw [parentOf, parentOf, node_setNode_ne own]

theorem alike_withFile (i : NodeId) (t : FileTree) (d : NodeId) (n : Bytes) :
    Alike i t (t.withFile d n) := by
  have pushed : Alike i t { t with nodes := t.nodes.push (.file []) } := by
    refine ⟨rfl, fun j => ?_, fun j => ?_, fun j _ _ => node_push t j⟩
    · rw [isDirNode, isDirNode, node_push]
    · rw [parentOf, parentOf, node_push]
  exact pushed.trans (alike_addEntry i _ d n _)

theorem entry?_of_no_dir (no_dir : t.isDirNode d = false) : t.entry? d n = none := by
  have nothing : t.entriesOf d = [] := by
    unfold isDirNode at no_dir
    unfold entriesOf
    split at no_dir
    · cases no_dir
    · rfl
  rw [FileTree.entry?, nothing]
  rfl

theorem entry?_dropped : FileTree.entry? (t.dropEntry d n) e m =
    if e = d ∧ m = n then none else t.entry? e m := by
  by_cases own : e = d
  · subst own
    cases is_dir : t.isDirNode e with
    | true =>
      obtain ⟨parent, es, closed, listed⟩ := isDirNode_iff.mp is_dir
      rw [entry?_dropEntry listed]
      simp
    | false =>
      rw [entry?_of_no_dir (((alike_dropEntry 0 t e n).dirs e).trans is_dir),
        entry?_of_no_dir is_dir, ite_self]
  · rw [if_neg fun both => own both.1]
    unfold dropEntry
    split
    · exact entry?_congr (node_setNode_ne own)
    · rfl

theorem entry?_added (is_dir : t.isDirNode d = true) :
    FileTree.entry? (t.addEntry d n i) e m =
      if e = d ∧ m = n then some ((t.entry? d n).getD i) else t.entry? e m := by
  obtain ⟨parent, es, closed, listed⟩ := isDirNode_iff.mp is_dir
  by_cases own : e = d
  · subst own
    rw [entry?_addEntry listed]
    by_cases same : m = n
    · subst same
      rw [if_pos rfl, if_pos ⟨rfl, rfl⟩]
      cases t.entry? e m <;> rfl
    · rw [if_neg same, if_neg fun both => same both.2, Option.or_none]
  · rw [if_neg fun both => own both.1, addEntry, listed]
    exact entry?_congr (node_setNode_ne own)

theorem move_eq_of_no_dir (no_dir : t.isDirNode i = false) :
    t.move e m d n i = ((t.dropEntry e m).dropEntry d n).addEntry d n i := by
  have still : (((t.dropEntry e m).dropEntry d n).addEntry d n i).isDirNode i = false := by
    rw [(alike_addEntry i _ d n i).dirs, (alike_dropEntry i _ d n).dirs,
      (alike_dropEntry i t e m).dirs, no_dir]
  unfold move
  dsimp only
  split
  · rename_i above es closed listed
    rw [isDirNode, listed] at still
    cases still
  · rfl

theorem contents?_move (there : t.contents? i = some c) (j : NodeId) :
    (t.move e m d n i).contents? j = t.contents? j := by
  rw [move_eq_of_no_dir (isDirNode_of_contents there), contents?_addEntry, contents?_dropEntry, contents?_dropEntry]

theorem alike_move (there : t.contents? i = some c) : Alike i t (t.move e m d n i) := by
  rw [move_eq_of_no_dir (isDirNode_of_contents there)]
  exact ((alike_dropEntry i t e m).trans (alike_dropEntry i _ d n)).trans
    (alike_addEntry i _ d n i)

theorem entry?_move {x : NodeId} {y : Bytes} (is_dir : t.isDirNode d = true)
    (there : t.contents? i = some c) : FileTree.entry? (t.move e m d n i) x y =
      if x = d ∧ y = n then some i else if x = e ∧ y = m then none else t.entry? x y := by
  have dropped_dir : ((t.dropEntry e m).dropEntry d n).isDirNode d = true :=
    ((alike_dropEntry i _ d n).dirs d).trans (((alike_dropEntry i t e m).dirs d).trans is_dir)
  have free : FileTree.entry? ((t.dropEntry e m).dropEntry d n) d n = none := by
    rw [entry?_dropped, if_pos ⟨rfl, rfl⟩]
  rw [move_eq_of_no_dir (isDirNode_of_contents there), entry?_added dropped_dir, free, Option.getD_none]
  split
  · rfl
  · rename_i other
    rw [entry?_dropped, if_neg other, entry?_dropped]

theorem not_leadsOn_of_contents (there : t.contents? i = some c) : ¬ t.LeadsOn i :=
  fun on => on.no_file c (node_of_contents there)

theorem not_leadsOn_of_full (full : t.node i = .full) : ¬ t.LeadsOn i := by
  rintro (is_dir | ⟨target, link⟩)
  · rw [isDirNode, full] at is_dir
    cases is_dir
  · rw [full] at link
    cases link

theorem Agree.refl (ends : ¬ t.LeadsOn i) : Agree i t t :=
  ⟨.refl i t, fun _ _ _ _ => Iff.rfl, ends, ends⟩

theorem Agree.symm (agree : Agree i t u) : Agree i u t :=
  ⟨agree.toAlike.symm, fun d n child other => (agree.entries d n child other).symm,
    agree.ends.2, agree.ends.1⟩

theorem Agree.trans (first : Agree i t u) (last : Agree i u v) : Agree i t v :=
  ⟨first.toAlike.trans last.toAlike,
    fun d n child other => (last.entries d n child other).trans (first.entries d n child other),
    first.ends.1, last.ends.2⟩

theorem agree_setFile (there : t.contents? i = some c) (bytes : Bytes) :
    Agree i t (t.setNode i (.file bytes)) := by
  have new : (t.setNode i (.file bytes)).contents? i = some bytes :=
    contents?_eq_some.mpr (getElem?_setNode_self (lt_of_contents there))
  refine ⟨alike_setFile there bytes, fun d n child _ => ?_, not_leadsOn_of_contents there,
    not_leadsOn_of_contents new⟩
  rw [entry?_setFile there]

theorem agree_withFile (listed : t.node d = .dir parent es false) :
    Agree t.nodes.size t (t.withFile d n) := by
  have old : ¬ t.LeadsOn t.nodes.size := fun on => on.no_file [] (node_size t)
  have new : (t.withFile d n).contents? t.nodes.size = some [] := by
    rw [contents?_withFile listed, if_pos rfl]
  refine ⟨alike_withFile _ t d n, fun e m child other => ?_, old, not_leadsOn_of_contents new⟩
  by_cases own : e = d
  · subst own
    rw [entry?_withFile listed]
    cases t.entry? e m with
    | some k => simp
    | none =>
      split
      · simp [Ne.symm other]
      · simp
  · rw [entry?_withFile_ne listed own]

theorem agree_dropEntry (ends : ¬ t.LeadsOn i) (entry : ∀ j, t.entry? d n = some j → j = i) :
    Agree i t (t.dropEntry d n) := by
  refine ⟨alike_dropEntry i t d n, fun e m child other => ?_, ends, ?_⟩
  · rw [entry?_dropped]
    split
    · rename_i both
      rw [both.1, both.2]
      constructor
      · intro nothing
        cases nothing
      · intro there
        exact absurd (entry child there) other
    · exact Iff.rfl
  · rintro (is_dir | ⟨target, link⟩)
    · exact ends (.inl (by rwa [← (alike_dropEntry i t d n).dirs i]))
    · -- What is at a node that is no directory is not changed when an entry is dropped.
      have no_dir : t.isDirNode i = false := by
        by_contra is_dir
        exact ends (.inl (by simpa using is_dir))
      rw [(alike_dropEntry (i + 1) t d n).nodes i (Nat.ne_of_lt (Nat.lt_succ_self i)) no_dir] at link
      exact ends (.inr ⟨target, link⟩)

theorem Alike.routes (alike : Alike i t u) (ends : ¬ t.LeadsOn i)
    (entries : ∀ d n child, t.entry? d n = some child → t.LeadsOn child →
      u.entry? d n = some child) : Routes t u where
  dirs j is_dir := ⟨(alike.dirs j).trans is_dir, alike.above j⟩
  links j target link := by
    have other : j ≠ i := by
      rintro rfl
      exact ends (.inr ⟨target, link⟩)
    rw [alike.nodes j other (by rw [isDirNode, link]), link]
  entries := entries

theorem Agree.routes (agree : Agree i t u) : Routes t u := by
  apply agree.toAlike.routes agree.ends.1
  intro d n child entry on
  have other : child ≠ i := by
    rintro rfl
    exact agree.ends.1 on
  exact (agree.entries d n child other).mpr entry

theorem Agree.spotOf_eq_ok (agree : Agree i t u) : u.spotOf p = .ok spot ↔ t.spotOf p = .ok spot :=
  ⟨spotOf_of_routes agree.symm.current agree.symm.routes,
    spotOf_of_routes agree.current agree.routes⟩

theorem Alike.link_of_ne (alike : Alike i t u) (other : j ≠ i) {target : Bytes}
    (link : u.node j = .link target) : t.node j = .link target := by
  rw [← link]
  apply (alike.nodes j other _).symm
  rw [← alike.dirs j, isDirNode, link]

theorem Agree.find (agree : Agree i t u) (other : j ≠ i) (found : t.find p = .ok j) :
    u.find p = .ok j :=
  find_of_routes agree.current agree.routes
    (fun d n entry => (agree.entries d n j other).mpr entry)
    (fun _ link => agree.toAlike.link_of_ne other link) found

theorem Alike.read (alike : Alike i t u) (other : j ≠ i) (before : t.find p = .ok j)
    (after : u.find p = .ok j) : u.read p = t.read p := by
  rw [FileTree.read, FileTree.read, before, after]
  simp only [bind, Except.bind]
  cases is_dir : t.isDirNode j with
  | false => rw [alike.nodes j other is_dir]
  | true =>
    obtain ⟨parent, es, closed, listed⟩ := isDirNode_iff.mp is_dir
    obtain ⟨parent', es', closed', listed'⟩ := isDirNode_iff.mp ((alike.dirs j).trans is_dir)
    rw [listed, listed']

theorem Agree.lookup (agree : Agree i t u) (before : t.find p ≠ .ok i) (after : u.find p ≠ .ok i) :
    u.lookup p = t.lookup p := by
  by_cases found : ∃ j, t.find p = .ok j
  · obtain ⟨j, found⟩ := found
    have other : j ≠ i := by
      rintro rfl
      exact before found
    have found' := agree.find other found
    rw [FileTree.lookup, FileTree.lookup, holds, holds, found, found',
      agree.toAlike.read other found found']
  · have nowhere : ∀ j, t.find p ≠ .ok j := fun j found' => found ⟨j, found'⟩
    rw [lookup_of_no_find nowhere]
    apply lookup_of_no_find
    intro j found'
    have other : j ≠ i := by
      rintro rfl
      exact after found'
    exact nowhere j (agree.symm.find other found')

end

end MountProbe.FileTree
