import MountProbe.Proofs.FileTree.Files
import MountProbe.Proofs.Journal.Names

namespace MountProbe.Journal

open FileTree

section

variable {t u v : FileTree} {base p : Path} {kept m i x : Nat} {dir : NodeId} {name c : Bytes}
  {f g : Nat → Option NodeId} {s : Scene}

/-- What a name of the log leads to. -/
def slot (t : FileTree) (dir : NodeId) (name : Bytes) (i : Nat) : Option NodeId :=
  t.entry? dir (logName name i)

/-- The names of a log, as many as its rotations use, can be looked up and are names in one
directory that takes new entries. Each leads to a file or nowhere. -/
structure Shelf (t : FileTree) (base : Path) (kept : Nat) (dir : NodeId) (name : Bytes) : Prop where
  above : ∀ p, base.parent? = some p → p.isEmpty = true ∨ t.isDir p = true
  no_slash : base.raw.getLast? ≠ some Path.slash
  spots : ∀ i ≤ kept, t.spotOf (logPath base i) = .ok (.entry dir (logName name i))
  isOpen : ∃ parent es, t.node dir = .dir parent es false
  leads : ∀ i ≤ kept, ∀ x, slot t dir name i = some x → ∃ c, t.contents? x = some c

theorem Shelf.of_ways (h : Shelf t base kept dir name) (ways : t.Ways u)
    (isOpen : ∃ parent es, u.node dir = .dir parent es false)
    (leads : ∀ i ≤ kept, ∀ x, slot u dir name i = some x → ∃ c, u.contents? x = some c) :
    Shelf u base kept dir name where
  above p up := (h.above p up).imp_right (isDir_of_ways ways)
  no_slash := h.no_slash
  spots i low := spotOf_of_ways ways (h.spots i low)
  isOpen := isOpen
  leads := leads

theorem Shelf.makeAll (h : Shelf t base kept dir name) (up : base.parent? = some p) :
    t.makeAll p = (t, .ok ()) :=
  (h.above p up).elim makeAll_of_isEmpty makeAll_of_isDir

theorem Shelf.lookup (h : Shelf t base kept dir name) (low : i ≤ kept) :
    t.lookup (logPath base i) = ((slot t dir name i).bind t.contents?).map .ok := by
  have no_slash := logPath_no_slash h.no_slash i
  cases here : slot t dir name i with
  | none => exact lookup_of_missing no_slash (h.spots i low) here
  | some x =>
    obtain ⟨c, there⟩ := h.leads i low x here
    rw [lookup_of_entry no_slash (h.spots i low) here there, Option.bind_some, there,
      Option.map_some]

theorem Shelf.extended (h : Shelf t base kept dir name) (there : t.contents? x = some c)
    (bytes : Bytes) : Shelf (t.extended x bytes) base kept dir name := by
  refine h.of_ways (ways_extended there bytes) ?_ fun i low y here => ?_
  · obtain ⟨parent, es, listed⟩ := h.isOpen
    have other : dir ≠ x := by
      rintro rfl
      rw [node_of_contents there] at listed
      cases listed
    exact ⟨parent, es, (node_extended_ne there other bytes).trans listed⟩
  · rw [slot, entry?_extended there] at here
    by_cases own : y = x
    · rw [own]
      exact ⟨_, contents?_extended there bytes⟩
    · rw [contents?_extended_ne there own]
      exact h.leads i low y here

theorem slot_extended (there : t.contents? x = some c) (bytes : Bytes) :
    slot (t.extended x bytes) dir name = slot t dir name :=
  funext fun _ => entry?_extended there bytes

/-- Only the names of one log have changed, and lead where it is said. -/
structure Renamed (dir : NodeId) (name : Bytes) (f : Nat → Option NodeId) (t u : FileTree) : Prop
    where
  relisted : t.Relisted dir u
  ways : t.Ways u
  slots : slot u dir name = f
  others : ∀ n, (∀ i, n ≠ logName name i) → u.entry? dir n = t.entry? dir n

theorem Renamed.trans (first : Renamed dir name f t u) (last : Renamed dir name g u v) :
    Renamed dir name g t v where
  relisted := first.relisted.trans last.relisted
  ways := first.ways.trans last.ways
  slots := last.slots
  others n other := (last.others n other).trans (first.others n other)

theorem Shelf.renamed (h : Shelf t base kept dir name) (change : Renamed dir name f t u)
    (sources : ∀ i ≤ kept, ∀ x, f i = some x → ∃ j ≤ kept, slot t dir name j = some x) :
    Shelf u base kept dir name := by
  refine h.of_ways change.ways ?_ fun i low x here => ?_
  · obtain ⟨parent, es, es', before, after⟩ := change.relisted.isOpen
    exact ⟨parent, es', after⟩
  · rw [change.slots] at here
    obtain ⟨j, j_low, there⟩ := sources i low x here
    rw [change.relisted.contents]
    exact h.leads j j_low x there

theorem Shelf.moved (h : Shelf t base kept dir name) (low : i < kept) :
    Renamed dir name (passOn (slot t dir name) i) t
      (t.moved dir (logName name i) (logName name (i + 1))) := by
  obtain ⟨parent, es, listed⟩ := h.isOpen
  have source := h.leads i (by omega)
  have target := h.leads (i + 1) (by omega)
  refine ⟨relisted_moved listed source, ways_moved listed source target, ?_, fun n other => ?_⟩
  · funext n
    rw [slot, entry?_moved listed source, moveName, passOn]
    have own : ∀ j, (logName name n = logName name j) = (n = j) := fun j =>
      propext ⟨logName_injective, congrArg _⟩
    simp only [own]
    rfl
  · rw [entry?_moved listed source, moveName]
    split
    · rfl
    · rw [if_neg (other (i + 1)), if_neg (other i), ite_self]

theorem Shelf.rename (h : Shelf t base kept dir name) (low : i < kept) :
    (match t.rename (logPath base i) (logPath base (i + 1)) with
      | .ok t' => t'
      | .error _ => t) = t.moved dir (logName name i) (logName name (i + 1)) := by
  rcases rename_of_spots (logPath_no_slash h.no_slash i) (logPath_no_slash h.no_slash (i + 1))
    (h.spots i (by omega)) (h.spots (i + 1) (by omega)) (h.leads i (by omega))
    (h.leads (i + 1) (by omega)) with done | ⟨⟨e, fails⟩, same⟩
  · rw [done]
  · rw [fails, same]

theorem makeWay_zero (base : Path) (t : FileTree) :
    Writer.makeWay base 0 t = match t.remove base with
      | .ok t' => t'
      | .error _ => t := rfl

theorem makeWay_one (base : Path) (t : FileTree) :
    Writer.makeWay base 1 t = match t.rename (logPath base 0) (logPath base 1) with
      | .ok t' => t'
      | .error _ => t := rfl

theorem makeWay_succ (base : Path) (m : Nat) (t : FileTree) :
    Writer.makeWay base (m + 2) t = Writer.makeWay base (m + 1)
      (match t.rename (logPath base (m + 1)) (logPath base (m + 2)) with
        | .ok t' => t'
        | .error _ => t) := rfl

/-- What the names of a log lead to after way was made for a new file. -/
def wayMade (kept : Nat) (f : Nat → Option NodeId) : Nat → Option NodeId :=
  match kept with
  | 0 => fun n => if n = 0 then none else f n
  | m + 1 => passDown (m + 1) f

theorem source_of_wayMade (low : i ≤ kept) (h : wayMade kept f i = some x) :
    ∃ j ≤ kept, f j = some x := by
  cases kept with
  | zero =>
    rw [Nat.le_zero.mp low] at h
    cases h
  | succ m => exact source_of_passDown (Nat.le_refl _) low h

theorem Shelf.passed (h : Shelf t base kept dir name) (low : m < kept) :
    Renamed dir name (passDown (m + 1) (slot t dir name)) t (Writer.makeWay base (m + 1) t) := by
  induction m generalizing t with
  | zero =>
    rw [makeWay_one, h.rename low]
    exact h.moved low
  | succ m ih =>
    rw [makeWay_succ, h.rename low]
    have first := h.moved low
    have rest := ih (h.renamed first fun i within x there => source_of_passOn low within there)
      (by omega)
    rw [first.slots] at rest
    exact first.trans rest

theorem Shelf.removed (h : Shelf t base kept dir name) :
    Renamed dir name (wayMade 0 (slot t dir name)) t (Writer.makeWay base 0 t) := by
  have spot : t.spotOf base = .ok (.entry dir name) := h.spots 0 (Nat.zero_le _)
  obtain ⟨parent, es, listed⟩ := h.isOpen
  cases here : t.entry? dir name with
  | none =>
    have refused : t.remove base = .error (.os .noEntry) := by
      rw [remove, spot]
      simp only [bind, Except.bind, here]
    rw [makeWay_zero, refused]
    refine ⟨.refl ⟨parent, es, listed⟩, .refl t, ?_, fun _ _ => rfl⟩
    funext n
    cases n with
    | zero => exact here
    | succ n => rfl
  | some x =>
    obtain ⟨c, there⟩ := h.leads 0 (Nat.zero_le _) x here
    rw [makeWay_zero, remove_of_entry h.no_slash spot here there]
    refine ⟨relisted_dropEntry listed name, ways_dropEntry listed (h.leads 0 (Nat.zero_le _)), ?_,
      fun n other => ?_⟩
    · funext n
      have own : (logName name n = name) = (n = 0) :=
        propext ⟨fun same => logName_injective (j := 0) same, fun zero => by rw [zero]; rfl⟩
      simp only [slot, entry?_dropEntry listed, own]
      rfl
    · rw [entry?_dropEntry listed, if_neg (show n ≠ name from other 0)]

theorem Shelf.makeWay (h : Shelf t base kept dir name) :
    Renamed dir name (wayMade kept (slot t dir name)) t (Writer.makeWay base kept t) ∧
      Shelf (Writer.makeWay base kept t) base kept dir name := by
  have change : Renamed dir name (wayMade kept (slot t dir name)) t
      (Writer.makeWay base kept t) := by
    cases kept with
    | zero => exact h.removed
    | succ m => exact h.passed (Nat.lt_succ_self m)
  exact ⟨change, h.renamed change fun i low x there => source_of_wayMade low there⟩

theorem makeWay_of_same (h : Shelf t base kept dir name) (low : m < kept)
    (same : ∀ i ≤ m + 1, slot t dir name i = some x) : Writer.makeWay base (m + 1) t = t := by
  have stays : ∀ i ≤ m, t.moved dir (logName name i) (logName name (i + 1)) = t := by
    intro i within
    have here : t.entry? dir (logName name i) = some x := same i (by omega)
    have next : t.entry? dir (logName name (i + 1)) = some x := same (i + 1) (by omega)
    rw [FileTree.moved, here]
    simp only [if_pos next]
  induction m with
  | zero => rw [makeWay_one, h.rename low, stays 0 (Nat.le_refl 0)]
  | succ m ih =>
    rw [makeWay_succ, h.rename low, stays (m + 1) (Nat.le_refl _)]
    exact ih (by omega) (fun i within => same i (by omega)) fun i within => stays i (by omega)

/-- The directories above a name are made, as far as they are missing. -/
def parentsMade (t : FileTree) (p : Path) : FileTree × Except IoFault Unit :=
  match p.parent? with
  | none => (t, .ok ())
  | some above => t.makeAll above

theorem openAppend_eq (s : Scene) (p : Path) :
    openAppend s p = match parentsMade s.tree p with
      | (t, .error _) => ({ s with tree := t }, none)
      | (t, .ok ()) =>
        match t.openFile p with
        | .error _ => ({ s with tree := t }, none)
        | .ok (u, i) => ({ s with tree := u }, some (i, u.length i)) := by
  unfold openAppend parentsMade
  cases p.parent? with
  | none => rfl
  | some above =>
    dsimp only
    generalize s.tree.makeAll above = x
    obtain ⟨t, made⟩ := x
    cases made <;> rfl

theorem Shelf.parentsMade (h : Shelf t base kept dir name) : parentsMade t base = (t, .ok ()) := by
  unfold Journal.parentsMade
  cases up : base.parent? with
  | none => rfl
  | some above => exact h.makeAll up

theorem openAppend_of_parentsMade (made : parentsMade s.tree base = (t, .ok ()))
    (shelf : Shelf t base kept dir name) :
    openAppend s base = openAppend { s with tree := t } base := by
  rw [openAppend_eq, openAppend_eq, made]
  simp only [shelf.parentsMade]

theorem openAppend_of_entry (h : Shelf s.tree base kept dir name)
    (here : slot s.tree dir name 0 = some x) (there : s.tree.contents? x = some c) :
    openAppend s base = (s, some (x, c.length)) := by
  have opened := openFile_of_entry h.no_slash (h.spots 0 (Nat.zero_le _)) here there
  rw [openAppend_eq, h.parentsMade]
  simp only [show s.tree.openFile base = _ from opened, FileTree.length, node_of_contents there]

theorem Shelf.withFile (h : Shelf t base kept dir name) (missing : slot t dir name 0 = none) :
    Shelf (t.withFile dir name) base kept dir name ∧
      ∀ i, slot (t.withFile dir name) dir name i =
        if i = 0 then some t.nodes.size else slot t dir name i := by
  obtain ⟨parent, es, listed⟩ := h.isOpen
  have slots : ∀ i, slot (t.withFile dir name) dir name i =
      if i = 0 then some t.nodes.size else slot t dir name i := by
    intro i
    have own : (logName name i = name) = (i = 0) :=
      propext ⟨fun same => logName_injective (j := 0) same, fun zero => by rw [zero]; rfl⟩
    rw [slot, entry?_withFile listed]
    simp only [own]
    split
    · rename_i zero
      rw [zero, show t.entry? dir (logName name 0) = none from missing, Option.none_or]
    · rw [Option.or_none, slot]
  refine ⟨h.of_ways (ways_withFile listed) ?_ fun i low x here => ?_, slots⟩
  · obtain ⟨parent', es₁, es₂, before, after⟩ := (relisted_withFile listed name).isOpen
    exact ⟨parent', es₂, after⟩
  · rw [contents?_withFile listed]
    rw [slots] at here
    split
    · exact ⟨[], rfl⟩
    · split at here
      · rename_i other _
        exact absurd (Option.some.inj here).symm other
      · exact h.leads i low x here

theorem openAppend_of_missing (h : Shelf s.tree base kept dir name)
    (missing : slot s.tree dir name 0 = none) :
    openAppend s base =
      ({ s with tree := s.tree.withFile dir name }, some (s.tree.nodes.size, 0)) := by
  obtain ⟨parent, es, listed⟩ := h.isOpen
  have opened := openFile_of_missing h.no_slash (h.spots 0 (Nat.zero_le _)) listed missing
  have fresh : (s.tree.withFile dir name).contents? s.tree.nodes.size = some [] := by
    rw [contents?_withFile listed, if_pos rfl]
  rw [openAppend_eq, h.parentsMade]
  simp only [show s.tree.openFile base = _ from opened, FileTree.length,
    show (s.tree.withFile dir (logName name 0)).node _ = _ from node_of_contents fresh]
  rfl

theorem shelf_of_plain (plain : ∀ i ≤ kept, Plain (logName name i))
    (listed : ∃ parent es, t.node t.current = .dir parent es false)
    (leads : ∀ i ≤ kept, ∀ x, slot t t.current name i = some x → ∃ c, t.contents? x = some c) :
    Shelf t ⟨name⟩ kept t.current name where
  above p up := by
    cases up.symm.trans (parent?_of_plain (plain 0 (Nat.zero_le _)))
    exact .inl rfl
  no_slash last := (plain 0 (Nat.zero_le _)).1 (List.mem_of_getLast? last)
  spots i low := by
    obtain ⟨parent, es, listed⟩ := listed
    have is_dir : t.isDirNode t.current = true := isDirNode_iff.mpr ⟨parent, es, false, listed⟩
    rw [show logPath ⟨name⟩ i = ⟨logName name i⟩ by cases i <;> rfl]
    exact spotOf_of_plain (plain i low) is_dir
  isOpen := listed
  leads := leads

end

end MountProbe.Journal
