import MountProbe.Proofs.FileTree.Ways

namespace MountProbe.FileTree

/-- What was written to a node. -/
def text (t : FileTree) (i : NodeId) : Bytes :=
  (t.contents? i).getD []

/-- Each entry leads to a node. -/
def Sound (t : FileTree) : Prop :=
  ∀ d, ∀ e ∈ t.entriesOf d, e.2 < t.nodes.size

/-- Nothing is written from the one tree to the other, and nothing goes away. -/
structure Quiet (t u : FileTree) : Prop where
  size : t.nodes.size ≤ u.nodes.size
  text : ∀ i, u.text i = t.text i
  sound : Sound t → Sound u

section

variable {t u v : FileTree} {i j dir parent parent' : NodeId} {p q : Path} {name : Bytes} {n : Node}
  {es es' : List (Bytes × NodeId)} {closed closed' : Bool}

theorem Quiet.refl (t : FileTree) : Quiet t t :=
  ⟨Nat.le_refl _, fun _ => rfl, id⟩

theorem Quiet.trans (first : Quiet t u) (last : Quiet u v) : Quiet t v where
  size := Nat.le_trans first.size last.size
  text i := (last.text i).trans (first.text i)
  sound h := last.sound (first.sound h)

theorem text_of_contents {c : Bytes} (h : t.contents? i = some c) : t.text i = c := by
  rw [text, h, Option.getD_some]

theorem text_of_no_file (no_file : ∀ c, t.node i ≠ .file c) : t.text i = [] := by
  rw [text]
  cases h : t.contents? i with
  | none => rfl
  | some c => exact absurd (node_of_contents h) (no_file c)

theorem text_congr (same : u.nodes[i]? = t.nodes[i]?) : u.text i = t.text i := by
  rw [text, text, contents?_congr same]

theorem entriesOf_of_dir (h : t.node dir = .dir parent es closed) : t.entriesOf dir = es := by
  rw [entriesOf, h]

theorem Sound.lt (h : Sound t) (entry : t.entry? dir name = some i) : i < t.nodes.size := by
  obtain ⟨e, found, rfl⟩ := Option.map_eq_some_iff.mp entry
  exact h dir e (List.mem_of_find?_eq_some found)

theorem sound_of_nodes (each : ∀ d < t.nodes.size, ∀ e ∈ t.entriesOf d, e.2 < t.nodes.size) :
    Sound t := by
  intro d e member
  by_cases there : d < t.nodes.size
  · exact each d there e member
  · rw [entriesOf, node, Array.getD_eq_getD_getElem?,
      Array.getElem?_eq_none (Nat.le_of_not_lt there)] at member
    cases member

theorem Quiet.setDir (listed : t.node dir = .dir parent es closed)
    (led : ∀ e ∈ es', e ∈ es ∨ e.2 < t.nodes.size) :
    Quiet t (t.setNode dir (.dir parent' es' closed')) := by
  have there := lt_of_node listed (by simp)
  refine ⟨Nat.le_of_eq size_setNode.symm, fun i => ?_, fun sound d e member => ?_⟩
  · by_cases own : i = dir
    · rw [own, text_of_no_file (by simp [node_setNode_self there]),
        text_of_no_file (by simp [listed])]
    · exact text_congr (getElem?_setNode_ne own)
  · rw [size_setNode]
    by_cases own : d = dir
    · rw [own, entriesOf_of_dir (node_setNode_self there)] at member
      rcases led e member with old | new
      · exact sound dir e (by rwa [entriesOf_of_dir listed])
      · exact new
    · rw [entriesOf, node_setNode_ne own] at member
      exact sound d e member

theorem quiet_dropEntry (t : FileTree) (dir : NodeId) (name : Bytes) :
    Quiet t (t.dropEntry dir name) := by
  unfold dropEntry
  split
  · rename_i parent es closed listed
    exact .setDir listed fun e member => .inl (List.mem_of_mem_filter member)
  · exact .refl t

theorem quiet_addEntry (dir : NodeId) (name : Bytes) (there : i < t.nodes.size) :
    Quiet t (t.addEntry dir name i) := by
  unfold addEntry
  split
  · rename_i parent es closed listed
    refine .setDir listed fun e member => ?_
    rcases List.mem_append.mp member with old | new
    · exact .inl old
    · rw [List.mem_singleton.mp new]
      exact .inr there
  · exact .refl t

theorem quiet_push (empty : n = .file [] ∨ ∃ parent, n = .dir parent [] false) :
    Quiet t { t with nodes := t.nodes.push n } := by
  have old : ∀ i, i ≠ t.nodes.size → (t.nodes.push n)[i]? = t.nodes[i]? := by
    intro i other
    rw [Array.getElem?_push, if_neg other]
  have new : (t.nodes.push n)[t.nodes.size]? = some n := by
    rw [Array.getElem?_push, if_pos rfl]
  refine ⟨by simp, fun i => ?_, fun sound d e member => ?_⟩
  · by_cases last : i = t.nodes.size
    · have before : t.text i = [] := by
        rw [text, contents?, last, Array.getElem?_eq_none (Nat.le_refl _)]
        rfl
      rw [before, text, contents?, last, new]
      rcases empty with rfl | ⟨parent, rfl⟩ <;> rfl
    · exact text_congr (old i last)
  · by_cases last : d = t.nodes.size
    · rw [last, entriesOf, node_of_getElem? new] at member
      rcases empty with rfl | ⟨parent, rfl⟩ <;> cases member
    · rw [entriesOf, node, Array.getD_eq_getD_getElem?, old d last,
        ← Array.getD_eq_getD_getElem?] at member
      rw [Array.size_push]
      exact Nat.lt_succ_of_lt (sound d e member)

theorem quiet_create (empty : n = .file [] ∨ ∃ parent, n = .dir parent [] false)
    (made : t.create dir name n = .ok (u, i)) : Quiet t u ∧ i < u.nodes.size := by
  unfold create at made
  split at made
  · cases made
  · cases made
    have added := quiet_addEntry (t := { t with nodes := t.nodes.push n }) (i := t.nodes.size) dir
      name (by simp)
    refine ⟨(quiet_push empty).trans added, Nat.lt_of_lt_of_le ?_ added.size⟩
    rw [Array.size_push]
    exact Nat.lt_succ_self _
  · cases made

theorem quiet_makeDir (made : t.makeDir p = .ok u) : Quiet t u := by
  unfold makeDir at made
  obtain ⟨spot, -, made⟩ := bind_eq_ok.mp made
  cases spot with
  | here d => cases made
  | entry d n =>
    dsimp only at made
    split at made
    · cases made
    · obtain ⟨⟨u', i⟩, created, same⟩ := bind_eq_ok.mp made
      cases same
      exact (quiet_create (.inr ⟨d, rfl⟩) (lift_eq_ok.mp created)).1

theorem quiet_makeDirs (fuel : Nat) (t : FileTree) (p : Path) :
    Quiet t (makeDirs fuel t p).1 :=
  makeDirs_related .refl .trans (fun _ => quiet_makeDir) (fun _ _ => trivial) fuel t trivial

theorem quiet_openSpot {links : Nat} {spot : Spot} (sound : Sound t)
    (opened : t.openSpot links spot = .ok (u, i)) : Quiet t u ∧ i < u.nodes.size := by
  fun_induction t.openSpot links spot with
  | case1 links d => cases opened
  | case2 links d n missing => exact quiet_create (.inl rfl) opened
  | case3 links d n child entry parent es closed listed => cases opened
  | case4 d n child entry target link => cases opened
  | case5 d n child entry target link fewer fault far => cases opened
  | case6 d n child entry target link fewer spot left near slash => cases opened
  | case7 d n child entry target link fewer spot left near no_slash ih => exact ih opened
  | case8 links d n child entry no_dir no_link =>
    cases opened
    exact ⟨.refl _, sound.lt entry⟩

theorem quiet_openFile (sound : Sound t) (opened : t.openFile p = .ok (u, i)) :
    Quiet t u ∧ i < u.nodes.size := by
  unfold openFile at opened
  obtain ⟨-, -, opened⟩ := bind_eq_ok.mp opened
  obtain ⟨⟨spot, links⟩, -, opened⟩ := bind_eq_ok.mp opened
  dsimp only at opened
  split at opened
  · cases opened
  · exact quiet_openSpot sound (lift_eq_ok.mp opened)

theorem quiet_move {fromDir toDir : NodeId} {fromName toName : Bytes} (there : i < t.nodes.size) :
    Quiet t (t.move fromDir fromName toDir toName i) := by
  have dropped := (quiet_dropEntry t fromDir fromName).trans
    (quiet_dropEntry (t.dropEntry fromDir fromName) toDir toName)
  have moved := dropped.trans (quiet_addEntry toDir toName (Nat.lt_of_lt_of_le there dropped.size))
  unfold move
  dsimp only
  split
  · rename_i parent es closed listed
    exact moved.trans (.setDir listed fun e member => .inl member)
  · exact moved

theorem quiet_remove (removed : t.remove p = .ok u) : Quiet t u := by
  unfold remove at removed
  obtain ⟨spot, -, removed⟩ := bind_eq_ok.mp removed
  cases spot with
  | here d => cases removed
  | entry d n =>
    dsimp only at removed
    split at removed
    · cases removed
    · split at removed
      · cases removed
      · split at removed
        · cases removed
        · cases removed
          exact quiet_dropEntry t d n

theorem quiet_rename (sound : Sound t) (renamed : t.rename p q = .ok u) : Quiet t u := by
  unfold rename at renamed
  obtain ⟨source, -, renamed⟩ := bind_eq_ok.mp renamed
  obtain ⟨target, -, renamed⟩ := bind_eq_ok.mp renamed
  cases source with
  | here d => cases renamed
  | entry fromDir fromName =>
    cases target with
    | here d => cases renamed
    | entry toDir toName =>
      dsimp only at renamed
      split at renamed
      · cases renamed
      · rename_i i entry
        have moves : Quiet t (t.move fromDir fromName toDir toName i) :=
          quiet_move (sound.lt entry)
        split at renamed
        · cases renamed
        · split at renamed
          · cases renamed
            exact .refl t
          · split at renamed
            · cases renamed
            · split at renamed
              · cases renamed
                exact moves
              · split at renamed
                · cases renamed
                · cases renamed
                  exact moves
              · split at renamed
                · cases renamed
                · split at renamed
                  · cases renamed
                  · cases renamed
                    exact moves

/-- What a write puts at the end of a file, and nothing else. -/
theorem text_append {bytes : Bytes} (there : i < t.nodes.size)
    (written : t.append i bytes = .ok u) :
    (∀ j, u.text j = t.text j ++ if j = i then bytes else []) ∧ u.nodes.size = t.nodes.size ∧
      (Sound t → Sound u) := by
  unfold append at written
  split at written
  · rename_i nothing
    cases written
    rw [List.isEmpty_iff.mp nothing]
    simp
  · split at written
    · rename_i c listed
      cases written
      refine ⟨fun j => ?_, size_setNode, fun sound d e member => ?_⟩
      · by_cases own : j = i
        · have old : t.contents? i = some c := by
            rw [contents?_eq_some, Array.getElem?_eq_getElem there]
            rw [node, Array.getD_eq_getD_getElem?, Array.getElem?_eq_getElem there] at listed
            exact congrArg some listed
          rw [own, if_pos rfl, text_of_contents old]
          exact text_of_contents (contents?_eq_some.mpr (getElem?_setNode_self there))
        · rw [if_neg own, List.append_nil, text_congr (getElem?_setNode_ne own)]
      · rw [size_setNode]
        by_cases own : d = i
        · rw [own, entriesOf, node_setNode_self there] at member
          cases member
        · rw [entriesOf, node_setNode_ne own] at member
          exact sound d e member
    · cases written
    · cases written

end

end MountProbe.FileTree
