import MountProbe.Proofs.FileTree.Above
import MountProbe.Proofs.FileTree.Agreeing

namespace MountProbe.FileTree

/-- Directories with such names have been made, and nothing else has changed. -/
structure Furnished (named : Path → Prop) (t u : FileTree) : Prop where
  current : u.current = t.current
  size : t.nodes.size ≤ u.nodes.size
  others : ∀ i < t.nodes.size, t.isDirNode i = false → u.node i = t.node i
  dirs : ∀ i parent es closed, t.node i = .dir parent es closed →
    ∃ es', u.node i = .dir parent es' closed
  kept : ∀ d n i, t.entry? d n = some i → u.entry? d n = some i
  new : ∀ d n i, t.entry? d n = none → u.entry? d n = some i →
    t.nodes.size ≤ i ∧ u.isDirNode i = true ∧ ∃ q, named q ∧ u.find q = .ok i

/-- Nothing has changed but what the one file holds, and what stands at the entries that are free
to change. -/
structure Confined (free : NodeId → Bytes → Prop) (i : NodeId) (t u : FileTree) : Prop where
  current : u.current = t.current
  others : ∀ j, j ≠ i → t.isDirNode j = false → u.node j = t.node j
  own : u.node i = t.node i ∨ ∃ c c', t.node i = .file c ∧ u.node i = .file c'
  dirs : ∀ j parent es closed, t.node j = .dir parent es closed →
    ∃ es', u.node j = .dir parent es' closed
  entries : ∀ d n, ¬ free d n → u.entry? d n = t.entry? d n

section

variable {t u v : FileTree} {i j d dir parent : NodeId} {b c m n : Bytes} {p q : Path}
  {es es' : List (Bytes × NodeId)} {closed : Bool} {named : Path → Prop}
  {free : NodeId → Bytes → Prop} {e : NodeId}

theorem Furnished.refl (t : FileTree) : Furnished named t t where
  current := rfl
  size := Nat.le_refl _
  others _ _ _ := rfl
  dirs _ _ es _ listed := ⟨es, listed⟩
  kept _ _ _ h := h
  new d n i missing there := by
    rw [missing] at there
    cases there

theorem Furnished.isDirNode (h : Furnished named t u) (is_dir : t.isDirNode i = true) :
    u.isDirNode i = true ∧ u.parentOf i = t.parentOf i := by
  obtain ⟨parent, es, closed, listed⟩ := isDirNode_iff.mp is_dir
  obtain ⟨es', still⟩ := h.dirs i parent es closed listed
  rw [FileTree.isDirNode, parentOf, parentOf, still, listed]
  exact ⟨rfl, rfl⟩

theorem Furnished.routes (h : Furnished named t u) : Routes t u where
  dirs _ is_dir := h.isDirNode is_dir
  links i target link := by
    rw [h.others i (lt_of_node link (by simp)) (by rw [FileTree.isDirNode, link]), link]
  entries d n child entry _ := h.kept d n child entry

theorem Furnished.find (h : Furnished named t u) (found : t.find q = .ok i)
    (is_dir : t.isDirNode i = true) : u.find q = .ok i := by
  refine find_of_routes h.current h.routes (fun d n => h.kept d n i) ?_ found
  intro target link
  obtain ⟨parent, es, closed, listed⟩ := isDirNode_iff.mp (h.isDirNode is_dir).1
  rw [listed] at link
  cases link

theorem Furnished.trans (first : Furnished named t u) (last : Furnished named u v) :
    Furnished named t v where
  current := last.current.trans first.current
  size := Nat.le_trans first.size last.size
  others i there no_dir := by
    have same := first.others i there no_dir
    rw [last.others i (Nat.lt_of_lt_of_le there first.size) (by rwa [FileTree.isDirNode, same]), same]
  dirs i parent es closed listed := by
    obtain ⟨es', still⟩ := first.dirs i parent es closed listed
    exact last.dirs i parent es' closed still
  kept d n i entry := last.kept d n i (first.kept d n i entry)
  new d n i missing there := by
    cases between : u.entry? d n with
    | none =>
      obtain ⟨late, dir⟩ := last.new d n i between there
      exact ⟨Nat.le_trans first.size late, dir⟩
    | some k =>
      cases (last.kept d n k between).symm.trans there
      obtain ⟨late, is_dir, q, own, found⟩ := first.new d n i missing between
      exact ⟨late, (last.isDirNode is_dir).1, q, own, last.find found is_dir⟩

theorem furnished_of_makeDir (own : named p) (made : t.makeDir p = .ok u) :
    Furnished named t u := by
  have bare := bare_of_makeDir made
  obtain ⟨d, n, parent, es, -, missing, listed, rfl⟩ := made_of_makeDir made
  have listed' : (t.withDir d).node d = .dir parent es false := node_withDir_of_dir listed
  have is_dir : (t.withDir d).isDirNode d = true := by rw [isDirNode, listed']
  have entries : ∀ e m, FileTree.entry? ((t.withDir d).addEntry d n t.nodes.size) e m =
      if e = d ∧ m = n then some t.nodes.size else t.entry? e m := by
    intro e m
    rw [entry?_added is_dir, entry?_withDir, entry?_withDir, missing, Option.getD_none]
  have node_ne : ∀ i, i ≠ d → i < t.nodes.size →
      ((t.withDir d).addEntry d n t.nodes.size).node i = t.node i := by
    intro i other there
    rw [addEntry, listed', node_setNode_ne other, node_withDir_ne (Nat.ne_of_lt there)]
  refine ⟨by rw [addEntry, listed']; rfl, ?_, fun i there no_dir => ?_,
    fun i parent' fs closed found => ?_, fun e m i entry => ?_, fun e m i none there => ?_⟩
  · rw [addEntry, listed', size_setNode, withDir, Array.size_push]
    exact Nat.le_succ _
  · refine node_ne i ?_ there
    rintro rfl
    rw [isDirNode, listed] at no_dir
    cases no_dir
  · by_cases same : i = d
    · subst same
      cases listed.symm.trans found
      rw [addEntry, listed', node_setNode_self (lt_of_node listed' (by simp))]
      exact ⟨_, rfl⟩
    · exact ⟨fs, (node_ne i same (lt_of_node found (by simp))).trans found⟩
  · rw [entries, if_neg, entry]
    rintro ⟨rfl, rfl⟩
    rw [missing] at entry
    cases entry
  · rw [entries] at there
    split at there
    · cases there
      exact ⟨Nat.le_refl _, bare.isDir, p, own, bare.find⟩
    · rw [none] at there
      cases there

theorem furnished_of_makeDirs (upward : ∀ {p above}, named p → p.parent? = some above → named above)
    (fuel : Nat) (t : FileTree) (own : named p) : Furnished named t (makeDirs fuel t p).1 :=
  makeDirs_related .refl .trans furnished_of_makeDir upward fuel t own

theorem Confined.refl (free : NodeId → Bytes → Prop) (i : NodeId) (t : FileTree) :
    Confined free i t t :=
  ⟨rfl, fun _ _ _ => rfl, .inl rfl, fun _ _ es _ listed => ⟨es, listed⟩, fun _ _ _ => rfl⟩

theorem Confined.trans (first : Confined free i t u) (last : Confined free i u v) :
    Confined free i t v where
  current := last.current.trans first.current
  others j other no_dir := by
    have same := first.others j other no_dir
    rw [last.others j other (by rwa [isDirNode, same]), same]
  own := by
    rcases first.own with same | ⟨c, c', before, after⟩ <;>
      rcases last.own with same' | ⟨b, b', before', after'⟩
    · exact .inl (same'.trans same)
    · exact .inr ⟨b, b', same.symm.trans before', after'⟩
    · exact .inr ⟨c, c', before, same'.trans after⟩
    · exact .inr ⟨c, b', before, after'⟩
  dirs j parent es closed listed := by
    obtain ⟨es', still⟩ := first.dirs j parent es closed listed
    exact last.dirs j parent es' closed still
  entries d n other := (last.entries d n other).trans (first.entries d n other)

theorem Confined.isDirNode (h : Confined free i t u) (no_dir : t.isDirNode i = false) :
    u.isDirNode i = false := by
  rcases h.own with same | ⟨c, c', before, after⟩
  · rwa [FileTree.isDirNode, same]
  · rw [FileTree.isDirNode, after]

theorem confined_setFile (there : t.contents? i = some c) (b : Bytes) :
    Confined free i t (t.setNode i (.file b)) := by
  have file := node_of_contents there
  refine ⟨rfl, fun j other _ => node_setNode_ne other,
    .inr ⟨c, b, file, node_setNode_self (lt_of_contents there)⟩, fun j parent es closed listed => ?_,
    fun d n _ => entry?_setFile there b⟩
  refine ⟨es, (node_setNode_ne ?_).trans listed⟩
  rintro rfl
  rw [file] at listed
  cases listed

theorem confined_setDir (listed : t.node d = .dir parent es closed) (no_dir : t.isDirNode i = false)
    (same : ∀ n, ¬ free d n →
      FileTree.entry? (t.setNode d (.dir parent es' closed)) d n = t.entry? d n) :
    Confined free i t (t.setNode d (.dir parent es' closed)) := by
  have ne_of_no_dir : ∀ j, t.isDirNode j = false → j ≠ d := by
    rintro j no_dir rfl
    rw [isDirNode, listed] at no_dir
    cases no_dir
  refine ⟨rfl, fun j _ no_dir => node_setNode_ne (ne_of_no_dir j no_dir),
    .inl (node_setNode_ne (ne_of_no_dir i no_dir)), fun j parent' fs closed' found => ?_,
    fun e n other => ?_⟩
  · by_cases own : j = d
    · subst own
      cases listed.symm.trans found
      exact ⟨es', node_setNode_self (lt_of_node listed (by simp))⟩
    · exact ⟨fs, (node_setNode_ne own).trans found⟩
  · by_cases own : e = d
    · subst own
      exact same n other
    · exact entry?_congr (node_setNode_ne own)

theorem confined_dropEntry (no_dir : t.isDirNode i = false) (own : free d n) :
    Confined free i t (t.dropEntry d n) := by
  have entries : ∀ m, ¬ free d m → FileTree.entry? (t.dropEntry d n) d m = t.entry? d m := by
    intro m other
    rw [entry?_dropped, if_neg]
    rintro ⟨-, rfl⟩
    exact other own
  cases is_dir : t.isDirNode d with
  | true =>
    obtain ⟨parent, es, closed, listed⟩ := isDirNode_iff.mp is_dir
    rw [dropEntry, listed] at entries ⊢
    exact confined_setDir listed no_dir entries
  | false =>
    have same : t.dropEntry d n = t := by
      unfold dropEntry
      split
      · rename_i parent es closed listed
        rw [isDirNode, listed] at is_dir
        cases is_dir
      · rfl
    rw [same]
    exact .refl free i t

theorem confined_addEntry (is_dir : t.isDirNode d = true) (no_dir : t.isDirNode i = false)
    (own : free d n) : Confined free i t (t.addEntry d n j) := by
  have entries : ∀ m, ¬ free d m → FileTree.entry? (t.addEntry d n j) d m = t.entry? d m := by
    intro m other
    rw [entry?_added is_dir, if_neg]
    rintro ⟨-, rfl⟩
    exact other own
  obtain ⟨parent, es, closed, listed⟩ := isDirNode_iff.mp is_dir
  rw [addEntry, listed] at entries ⊢
  exact confined_setDir listed no_dir entries

theorem confined_withFile (is_dir : t.isDirNode d = true) (no_dir : t.isDirNode i = false)
    (own : free d n) : Confined free i t (t.withFile d n) := by
  have same := node_push t
  have pushed : Confined free i t { t with nodes := t.nodes.push (.file []) } :=
    ⟨rfl, fun j _ _ => same j, .inl (same i), fun j _ es _ listed => ⟨es, (same j).trans listed⟩,
      fun d n _ => entry?_congr (same d)⟩
  refine pushed.trans (confined_addEntry ?_ (pushed.isDirNode no_dir) own)
  rwa [isDirNode, same]

theorem confined_move (is_dir : t.isDirNode d = true) (no_dir : t.isDirNode i = false)
    (no_dir' : t.isDirNode j = false) (source : free e m) (target : free d n) :
    Confined free i t (t.move e m d n j) := by
  have first : Confined free i t (t.dropEntry e m) := confined_dropEntry no_dir source
  have both := first.trans (confined_dropEntry (first.isDirNode no_dir) target)
  have still : ((t.dropEntry e m).dropEntry d n).isDirNode d = true :=
    ((alike_dropEntry i _ d n).dirs d).trans (((alike_dropEntry i t e m).dirs d).trans is_dir)
  rw [move_eq_of_no_dir no_dir']
  exact both.trans (confined_addEntry still (both.isDirNode no_dir) target)

end

end MountProbe.FileTree
