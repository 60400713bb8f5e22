import MountProbe.Proofs.FileTree.Ways

namespace MountProbe.FileTree

section

variable {t u v : FileTree} {i j dir parent : NodeId} {c bytes more : Bytes} {name other : Bytes}
  {p q : Path} {es : List (Bytes × NodeId)}

theorem ways_of_nodes (current : u.current = t.current) (nodes : ∀ i, u.node i = t.node i) :
    Ways t u where
  current := current
  dirs i is_dir := by
    rw [isDirNode, parentOf, nodes i]
    exact ⟨is_dir, rfl⟩
  links i target link := (nodes i).trans link
  others i no_file c found := no_file c ((nodes i).symm.trans found)
  entries d n child entry _ := (entry?_congr (nodes d)).trans entry

theorem Relisted.ways (h : Relisted dir t u)
    (kept : ∀ n child, t.entry? dir n = some child → (∀ c, t.node child ≠ .file c) →
      u.entry? dir n = some child) : Ways t u where
  current := h.current
  dirs i is_dir := by
    by_cases own : i = dir
    · obtain ⟨parent, es, es', before, after⟩ := h.isOpen
      rw [own, isDirNode, parentOf, parentOf, after, before]
      exact ⟨rfl, rfl⟩
    · rw [isDirNode, parentOf, h.node own]
      exact ⟨is_dir, rfl⟩
  links i target link := by
    have other : i ≠ dir := by
      rintro rfl
      obtain ⟨parent, es, es', before, after⟩ := h.isOpen
      rw [before] at link
      cases link
    rw [h.node other, link]
  others i no_file := by
    by_cases own : i = dir
    · obtain ⟨parent, es, es', before, after⟩ := h.isOpen
      simp [own, after]
    · rwa [h.node own]
  entries d n child entry no_file := by
    by_cases own : d = dir
    · subst own
      exact kept n child entry no_file
    · rw [entry?_congr (h.node own)]
      exact entry

theorem entry?_setFile (there : t.contents? i = some c) (bytes : Bytes) :
    FileTree.entry? (t.setNode i (.file bytes)) dir name = t.entry? dir name := by
  by_cases own : dir = i
  · subst own
    rw [entry?_of_file (node_of_contents there),
      entry?_of_file (node_setNode_self (lt_of_contents there))]
  · exact entry?_congr (node_setNode_ne own)

theorem ways_setFile (there : t.contents? i = some c) (bytes : Bytes) :
    Ways t (t.setNode i (.file bytes)) := by
  have same : ∀ j, (∀ d, t.node j ≠ .file d) → (t.setNode i (.file bytes)).node j = t.node j := by
    intro j no_file
    refine node_setNode_ne ?_
    rintro rfl
    exact no_file c (node_of_contents there)
  refine ⟨current_setNode, ?_, ?_, ?_, fun d n child entry _ =>
    (entry?_setFile there bytes).trans entry⟩
  · intro j is_dir
    obtain ⟨parent, es, closed, listed⟩ := isDirNode_iff.mp is_dir
    rw [isDirNode, parentOf, parentOf, same j (by simp [listed]), listed]
    exact ⟨rfl, rfl⟩
  · intro j target link
    rw [same j (by simp [link]), link]
  · intro j no_file
    rwa [same j no_file]

def extended (t : FileTree) (i : NodeId) (bytes : Bytes) : FileTree :=
  (t.append i bytes).toOption.getD t

theorem append_of_contents (there : t.contents? i = some c) (bytes : Bytes) :
    t.append i bytes = .ok (t.extended i bytes) := by
  unfold extended append
  split
  · rfl
  · simp only [node_of_contents there]
    rfl

theorem setNode_same (there : t.contents? i = some c) : t.setNode i (.file c) = t := by
  obtain ⟨inside, same⟩ := Array.getElem?_eq_some_iff.mp (contents?_eq_some.mp there)
  have unchanged : t.nodes.setIfInBounds i (.file c) = t.nodes := by
    refine Array.ext Array.size_setIfInBounds fun k _ _ => ?_
    rw [Array.getElem_setIfInBounds]
    split
    · rename_i own
      subst own
      exact same.symm
    · rfl
  rw [setNode, unchanged]

theorem extended_eq (there : t.contents? i = some c) (bytes : Bytes) :
    t.extended i bytes = t.setNode i (.file (c ++ bytes)) := by
  unfold extended append
  split
  · rename_i empty
    rw [List.isEmpty_iff.mp empty, List.append_nil, setNode_same there]
    rfl
  · simp only [node_of_contents there]
    rfl

theorem extended_nil : t.extended i [] = t := rfl

theorem contents?_extended (there : t.contents? i = some c) (bytes : Bytes) :
    (t.extended i bytes).contents? i = some (c ++ bytes) := by
  rw [extended_eq there, contents?_eq_some, getElem?_setNode_self (lt_of_contents there)]

theorem contents?_extended_ne (there : t.contents? i = some c) (ne : j ≠ i) (bytes : Bytes) :
    (t.extended i bytes).contents? j = t.contents? j := by
  rw [extended_eq there, contents?_congr (getElem?_setNode_ne ne)]

theorem extended_extended (there : t.contents? i = some c) :
    (t.extended i bytes).extended i more = t.extended i (bytes ++ more) := by
  rw [extended_eq (contents?_extended there bytes), extended_eq there, extended_eq there,
    List.append_assoc, setNode, setNode, setNode]
  simp

theorem node_extended_ne (there : t.contents? i = some c) (ne : j ≠ i) (bytes : Bytes) :
    (t.extended i bytes).node j = t.node j := by
  rw [extended_eq there, node_setNode_ne ne]

theorem entry?_extended (there : t.contents? i = some c) (bytes : Bytes) :
    FileTree.entry? (t.extended i bytes) dir name = t.entry? dir name := by
  rw [extended_eq there]
  exact entry?_setFile there _

theorem ways_extended (there : t.contents? i = some c) (bytes : Bytes) :
    Ways t (t.extended i bytes) := by
  rw [extended_eq there]
  exact ways_setFile there _

def withFile (t : FileTree) (dir : NodeId) (name : Bytes) : FileTree :=
  ({ t with nodes := t.nodes.push (.file []) } : FileTree).addEntry dir name t.nodes.size

theorem node_push (t : FileTree) (i : NodeId) :
    ({ t with nodes := t.nodes.push (.file []) } : FileTree).node i = t.node i := by
  simp only [node, Array.getD_eq_getD_getElem?, Array.getElem?_push]
  split
  · rename_i last
    rw [last, Array.getElem?_eq_none (Nat.le_refl _)]
    rfl
  · rfl

theorem create_eq (listed : t.node dir = .dir parent es false) :
    t.create dir name (.file []) = .ok (t.withFile dir name, t.nodes.size) := by
  rw [create, listed]
  rfl

theorem relisted_withFile (listed : t.node dir = .dir parent es false) (name : Bytes) :
    Relisted dir { t with nodes := t.nodes.push (.file []) } (t.withFile dir name) :=
  relisted_addEntry ((node_push t dir).trans listed) name _

theorem entry?_withFile (listed : t.node dir = .dir parent es false) :
    FileTree.entry? (t.withFile dir name) dir other =
      (t.entry? dir other).or (if other = name then some t.nodes.size else none) := by
  rw [withFile, entry?_addEntry ((node_push t dir).trans listed), entry?_congr (node_push t dir)]

theorem entry?_withFile_ne (listed : t.node dir = .dir parent es false) {d : NodeId}
    (ne : d ≠ dir) : FileTree.entry? (t.withFile dir name) d other = t.entry? d other :=
  entry?_congr (((relisted_withFile listed _).node ne).trans (node_push t d))

theorem contents?_withFile (listed : t.node dir = .dir parent es false) :
    (t.withFile dir name).contents? i = if i = t.nodes.size then some [] else t.contents? i := by
  rw [(relisted_withFile listed _).contents, contents?, Array.getElem?_push]
  by_cases last : i = t.nodes.size
  · rw [if_pos last, if_pos last]
  · rw [if_neg last, if_neg last]
    rfl

theorem ways_withFile (listed : t.node dir = .dir parent es false) :
    Ways t (t.withFile dir name) := by
  have pushed : Ways t { t with nodes := t.nodes.push (.file []) } :=
    ways_of_nodes rfl (node_push t)
  refine pushed.trans ((relisted_withFile listed _).ways fun n child entry _ => ?_)
  rw [entry?_congr (node_push t dir)] at entry
  rw [entry?_withFile listed, entry, Option.some_or]

theorem lookup_of_no_find (nowhere : ∀ i, t.find p ≠ .ok i) : t.lookup p = none := by
  rw [lookup, holds]
  cases found : t.find p with
  | ok i => exact absurd found (nowhere i)
  | error fault => rfl

theorem lookup_of_no_spot {fault : IoFault} (lost : t.spotOf p = .error fault) :
    t.lookup p = none := by
  apply lookup_of_no_find
  intro i found
  obtain ⟨spot, spotted, -⟩ := spotOf_of_find found
  rw [lost] at spotted
  cases spotted

theorem openFile_eq {spot : Spot} (no_slash : p.raw.getLast? ≠ some Path.slash)
    (found : t.spotOf p = .ok spot) : ∃ links, t.openFile p = lift (t.openSpot links spot) := by
  obtain ⟨named, links, located⟩ := spotOf_eq_ok.mp found
  refine ⟨links, ?_⟩
  simp only [openFile, named, located, lift, bind, Except.bind, if_neg no_slash]

theorem spotOf_of_openFile {x : FileTree × NodeId} (opened : t.openFile p = .ok x) :
    ∃ spot, t.spotOf p = .ok spot := by
  unfold openFile at opened
  obtain ⟨_, named, opened⟩ := bind_eq_ok.mp opened
  obtain ⟨⟨spot, links⟩, located, -⟩ := bind_eq_ok.mp opened
  exact ⟨spot, spotOf_eq_ok.mpr ⟨named, links, lift_eq_ok.mp located⟩⟩

section

variable (no_slash : p.raw.getLast? ≠ some Path.slash) (spot : t.spotOf p = .ok (.entry dir name))

include no_slash spot

theorem find_at_entry (entry : t.entry? dir name = some i)
    (no_link : ∀ target, t.node i ≠ .link target) : t.find p = .ok i := by
  obtain ⟨named, links, located⟩ := spotOf_eq_ok.mp spot
  refine find_eq_ok.mpr ⟨named, _, links, by rwa [stepsInto, if_neg no_slash], ?_⟩
  rw [arrive, entry]
  dsimp only
  split
  · rename_i target link
    exact absurd link (no_link target)
  · rfl

theorem find_of_entry (entry : t.entry? dir name = some i) (there : t.contents? i = some c) :
    t.find p = .ok i :=
  find_at_entry no_slash spot entry (by simp [node_of_contents there])

theorem lookup_of_entry (entry : t.entry? dir name = some i) (there : t.contents? i = some c) :
    t.lookup p = some (.ok c) := by
  have found := find_of_entry no_slash spot entry there
  rw [lookup, holds, read, found]
  simp only [bind, Except.bind, node_of_contents there]
  rfl

theorem lookup_of_missing (missing : t.entry? dir name = none) : t.lookup p = none := by
  obtain ⟨named, links, located⟩ := spotOf_eq_ok.mp spot
  apply lookup_of_no_find
  intro i found
  obtain ⟨_, spot', links', located', arrived⟩ := find_eq_ok.mp found
  rw [stepsInto, if_neg no_slash, located] at located'
  cases located'
  rw [arrive] at arrived
  simp only [missing] at arrived
  cases arrived

theorem openFile_of_spot {x : FileTree × NodeId}
    (opened : ∀ links, t.openSpot links (.entry dir name) = .ok x) : t.openFile p = .ok x := by
  obtain ⟨links, opens⟩ := openFile_eq no_slash spot
  rw [opens, opened]
  rfl

theorem openFile_of_entry (entry : t.entry? dir name = some i) (there : t.contents? i = some c) :
    t.openFile p = .ok (t, i) := by
  refine openFile_of_spot no_slash spot fun links => ?_
  rw [openSpot]
  simp only [entry, node_of_contents there]

theorem openFile_of_missing (listed : t.node dir = .dir parent es false)
    (missing : t.entry? dir name = none) :
    t.openFile p = .ok (t.withFile dir name, t.nodes.size) := by
  refine openFile_of_spot no_slash spot fun links => ?_
  rw [openSpot]
  simp only [missing, create_eq listed]

theorem remove_of_entry (entry : t.entry? dir name = some i) (there : t.contents? i = some c) :
    t.remove p = .ok (t.dropEntry dir name) := by
  rw [remove, spot]
  simp only [bind, Except.bind, entry, isDirNode_of_contents there, if_neg no_slash]
  rfl

end

/-- What the names of a directory lead to after one of them was renamed. Nothing happens if it
leads nowhere, or to what the other one leads to. -/
def moveName (f : Bytes → Option NodeId) (a b n : Bytes) : Option NodeId :=
  match f a with
  | none => f n
  | some i => if f b = some i then f n else if n = b then some i else if n = a then none else f n

/-- A tree after a file of a directory was renamed, if it could be. -/
def moved (t : FileTree) (dir : NodeId) (a b : Bytes) : FileTree :=
  match t.entry? dir a with
  | none => t
  | some i => if t.entry? dir b = some i then t else t.move dir a dir b i

variable {a b : Bytes}

theorem rename_of_spots (no_slash_p : p.raw.getLast? ≠ some Path.slash)
    (no_slash_q : q.raw.getLast? ≠ some Path.slash) (spot_p : t.spotOf p = .ok (.entry dir a))
    (spot_q : t.spotOf q = .ok (.entry dir b))
    (source : ∀ i, t.entry? dir a = some i → ∃ c, t.contents? i = some c)
    (target : ∀ i, t.entry? dir b = some i → ∃ c, t.contents? i = some c) :
    t.rename p q = .ok (t.moved dir a b) ∨
      (∃ e, t.rename p q = .error e) ∧ t.moved dir a b = t := by
  rw [rename, spot_p, spot_q]
  simp only [bind, Except.bind, moved]
  cases entry : t.entry? dir a with
  | none => exact .inr ⟨⟨_, rfl⟩, rfl⟩
  | some i =>
    left
    obtain ⟨c, there⟩ := source i entry
    have no_dir := isDirNode_of_contents there
    have p_ok : (p.raw.getLast? == some Path.slash) = false := beq_false_of_ne no_slash_p
    have q_ok : (q.raw.getLast? == some Path.slash) = false := beq_false_of_ne no_slash_q
    simp only [no_dir, p_ok, q_ok, Bool.or_self, Bool.and_false, Bool.false_and,
      Bool.false_eq_true, if_false, beq_iff_eq]
    cases old : t.entry? dir b with
    | none => simp [pure, Except.pure]
    | some o =>
      obtain ⟨d, there'⟩ := target o old
      by_cases same : o = i
      · simp [same, pure, Except.pure]
      · simp [same, isDirNode_of_contents there', pure, Except.pure]

section

variable (listed : t.node dir = .dir parent es false)
  (source : ∀ i, t.entry? dir a = some i → ∃ c, t.contents? i = some c)

include listed source

theorem move_eq (entry : t.entry? dir a = some i) :
    t.move dir a dir b i = ((t.dropEntry dir a).dropEntry dir b).addEntry dir b i := by
  obtain ⟨c, there⟩ := source i entry
  obtain ⟨q, es₁, es₂, before, after⟩ := (relisted_dropEntry listed a).isOpen
  obtain ⟨q', es₃, es₄, before', after'⟩ := (relisted_dropEntry after b).isOpen
  have whole := ((relisted_dropEntry listed a).trans (relisted_dropEntry after b)).trans
    (relisted_addEntry after' b i)
  have kept := node_of_contents ((whole.contents i).trans there)
  simp only [move, kept]

theorem relisted_moved : Relisted dir t (t.moved dir a b) := by
  unfold moved
  split
  · exact .refl ⟨_, _, listed⟩
  · rename_i i entry
    split
    · exact .refl ⟨_, _, listed⟩
    · obtain ⟨q, es₁, es₂, before, after⟩ := (relisted_dropEntry listed a).isOpen
      obtain ⟨q', es₃, es₄, before', after'⟩ := (relisted_dropEntry after b).isOpen
      rw [move_eq listed source entry]
      exact ((relisted_dropEntry listed a).trans (relisted_dropEntry after b)).trans
        (relisted_addEntry after' b i)

theorem entry?_moved (n : Bytes) :
    FileTree.entry? (t.moved dir a b) dir n = moveName (t.entry? dir) a b n := by
  unfold moved moveName
  cases entry : t.entry? dir a with
  | none => rfl
  | some i =>
    dsimp only
    split
    · rfl
    · obtain ⟨q, es₁, es₂, before, after⟩ := (relisted_dropEntry listed a).isOpen
      obtain ⟨q', es₃, es₄, before', after'⟩ := (relisted_dropEntry after b).isOpen
      rw [move_eq listed source entry, entry?_addEntry after', entry?_dropEntry after,
        entry?_dropEntry listed]
      by_cases to_b : n = b
      · simp [to_b]
      · by_cases from_a : n = a <;> simp [to_b, from_a]

theorem ways_moved (target : ∀ i, t.entry? dir b = some i → ∃ c, t.contents? i = some c) :
    Ways t (t.moved dir a b) := by
  refine (relisted_moved listed source).ways fun n child entry no_file => ?_
  have other : ∀ m, (∀ i, t.entry? dir m = some i → ∃ c, t.contents? i = some c) → n ≠ m := by
    rintro m leads rfl
    obtain ⟨c, there⟩ := leads child entry
    exact no_file c (node_of_contents there)
  rw [entry?_moved listed source, moveName]
  split
  · exact entry
  · rw [if_neg (other b target), if_neg (other a source), entry, ite_self]

end

theorem ways_dropEntry (listed : t.node dir = .dir parent es false)
    (leads : ∀ i, t.entry? dir name = some i → ∃ c, t.contents? i = some c) :
    Ways t (t.dropEntry dir name) := by
  refine (relisted_dropEntry listed name).ways fun n child entry no_file => ?_
  rw [entry?_dropEntry listed, if_neg ?_, entry]
  rintro rfl
  obtain ⟨c, there⟩ := leads child entry
  exact no_file c (node_of_contents there)

end

end MountProbe.FileTree
