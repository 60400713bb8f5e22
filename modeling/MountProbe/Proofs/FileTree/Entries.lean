import MountProbe.FileTree.Change
import Mathlib.Data.List.Basic

namespace MountProbe.FileTree

/-- What the file at a node holds; what is no file, or not there, holds nothing. -/
def contents? (t : FileTree) (i : NodeId) : Option Bytes :=
  match t.nodes[i]? with
  | some (.file c) => some c
  | _ => none

section

variable {t u : FileTree} {i j dir parent : NodeId} {c : Bytes} {n : Node} {name other : Bytes}
  {es : List (Bytes × NodeId)} {closed : Bool}

theorem contents?_eq_some : t.contents? i = some c ↔ t.nodes[i]? = some (.file c) := by
  unfold contents?
  split
  · rename_i d found
    rw [found]
    simp
  · rename_i other
    constructor
    · intro h
      cases h
    · intro found
      exact absurd found (other c)

theorem node_of_getElem? (h : t.nodes[i]? = some n) : t.node i = n := by
  rw [node, Array.getD_eq_getD_getElem?, h, Option.getD_some]

theorem node_of_contents (h : t.contents? i = some c) : t.node i = .file c :=
  node_of_getElem? (contents?_eq_some.mp h)

theorem lt_of_contents (h : t.contents? i = some c) : i < t.nodes.size :=
  (Array.getElem?_eq_some_iff.mp (contents?_eq_some.mp h)).1

theorem lt_of_node (h : t.node i = n) (no_file : ∀ c, n ≠ .file c) : i < t.nodes.size := by
  by_contra outside
  rw [node, Array.getD_eq_getD_getElem?, Array.getElem?_eq_none (Nat.le_of_not_lt outside),
    Option.getD_none] at h
  exact no_file [] h.symm

theorem isDirNode_iff : t.isDirNode i = true ↔ ∃ p es b, t.node i = .dir p es b := by
  unfold isDirNode
  split <;> simp_all

theorem isDirNode_of_contents (h : t.contents? i = some c) : t.isDirNode i = false := by
  rw [isDirNode, node_of_contents h]

theorem entry?_of_dir (h : t.node dir = .dir parent es closed) :
    t.entry? dir name = (es.find? fun e => e.1 == name).map (·.2) := by
  rw [FileTree.entry?, entriesOf, h]

theorem entry?_of_file (h : t.node dir = .file c) : t.entry? dir name = none := by
  rw [FileTree.entry?, entriesOf, h]
  rfl

theorem entry?_isSome_iff : (t.entry? dir name).isSome ↔ name ∈ (t.entriesOf dir).map Prod.fst := by
  simp [FileTree.entry?]

theorem entry?_congr (same : u.node dir = t.node dir) : u.entry? dir name = t.entry? dir name := by
  rw [FileTree.entry?, FileTree.entry?, entriesOf, entriesOf, same]

@[simp] theorem size_setNode : (t.setNode i n).nodes.size = t.nodes.size := by
  simp [setNode]

@[simp] theorem current_setNode : (t.setNode i n).current = t.current := rfl

theorem getElem?_setNode_self (there : i < t.nodes.size) : (t.setNode i n).nodes[i]? = some n := by
  simp [setNode, there]

theorem getElem?_setNode_ne (ne : j ≠ i) : (t.setNode i n).nodes[j]? = t.nodes[j]? := by
  simp [setNode, Array.getElem?_setIfInBounds_ne (Ne.symm ne)]

theorem node_setNode_self (there : i < t.nodes.size) : (t.setNode i n).node i = n :=
  node_of_getElem? (getElem?_setNode_self there)

theorem node_setNode_ne (ne : j ≠ i) : (t.setNode i n).node j = t.node j := by
  rw [node, node, Array.getD_eq_getD_getElem?, Array.getD_eq_getD_getElem?, getElem?_setNode_ne ne]

theorem contents?_congr (same : u.nodes[i]? = t.nodes[i]?) : u.contents? i = t.contents? i := by
  rw [contents?, contents?, same]

/-- Only the entries of one directory have changed, which takes new ones. -/
structure Relisted (dir : NodeId) (t u : FileTree) : Prop where
  current : u.current = t.current
  size : u.nodes.size = t.nodes.size
  others : ∀ j, j ≠ dir → u.nodes[j]? = t.nodes[j]?
  isOpen : ∃ parent es es', t.node dir = .dir parent es false ∧ u.node dir = .dir parent es' false

theorem Relisted.node (h : Relisted dir t u) (ne : j ≠ dir) : u.node j = t.node j := by
  rw [FileTree.node, FileTree.node, Array.getD_eq_getD_getElem?, Array.getD_eq_getD_getElem?,
    h.others j ne]

theorem Relisted.contents (h : Relisted dir t u) (i : NodeId) :
    u.contents? i = t.contents? i := by
  by_cases ne : i = dir
  · obtain ⟨parent, es, es', before, after⟩ := h.isOpen
    have no_file : ∀ {v : FileTree} {es : List (Bytes × NodeId)},
        v.node dir = .dir parent es false → v.contents? dir = none := by
      intro v es listed
      cases found : v.contents? dir with
      | none => rfl
      | some c =>
        rw [node_of_contents found] at listed
        cases listed
    rw [ne, no_file before, no_file after]
  · exact contents?_congr (h.others i ne)

theorem Relisted.refl (isOpen : ∃ parent es, t.node dir = .dir parent es false) :
    Relisted dir t t := by
  obtain ⟨parent, es, listed⟩ := isOpen
  exact ⟨rfl, rfl, fun _ _ => rfl, parent, es, es, listed, listed⟩

theorem Relisted.trans {v : FileTree} (first : Relisted dir t u) (last : Relisted dir u v) :
    Relisted dir t v := by
  obtain ⟨parent, es, es', before, after⟩ := first.isOpen
  obtain ⟨parent', fs, fs', before', after'⟩ := last.isOpen
  rw [after] at before'
  cases before'
  exact ⟨last.current.trans first.current, last.size.trans first.size,
    fun j ne => (last.others j ne).trans (first.others j ne), parent, es, fs', before, after'⟩

theorem relisted_setNode (listed : t.node dir = .dir parent es false)
    (es' : List (Bytes × NodeId)) :
    Relisted dir t (t.setNode dir (.dir parent es' false)) := by
  have there := lt_of_node listed (by simp)
  exact ⟨rfl, size_setNode, fun j ne => getElem?_setNode_ne ne, parent, es, es', listed,
    node_setNode_self there⟩

theorem relisted_dropEntry (listed : t.node dir = .dir parent es false) (name : Bytes) :
    Relisted dir t (t.dropEntry dir name) := by
  rw [dropEntry, listed]
  exact relisted_setNode listed _

theorem relisted_addEntry (listed : t.node dir = .dir parent es false) (name : Bytes) (i : NodeId) :
    Relisted dir t (t.addEntry dir name i) := by
  rw [addEntry, listed]
  exact relisted_setNode listed _

theorem entry?_dropEntry (listed : t.node dir = .dir parent es closed) :
    FileTree.entry? (t.dropEntry dir name) dir other =
      if other = name then none else t.entry? dir other := by
  have there := lt_of_node listed (by simp)
  rw [dropEntry, listed, entry?_of_dir (node_setNode_self there), entry?_of_dir listed,
    List.find?_filter]
  split
  · rename_i same
    rw [same, List.find?_eq_none.mpr (by simp), Option.map_none]
  · rename_i ne
    congr 2
    funext e
    by_cases own : e.1 = other
    · simp [own, ne]
    · simp [own]

theorem entry?_addEntry (listed : t.node dir = .dir parent es closed) :
    FileTree.entry? (t.addEntry dir name i) dir other =
      (t.entry? dir other).or (if other = name then some i else none) := by
  have there := lt_of_node listed (by simp)
  rw [addEntry, listed, entry?_of_dir (node_setNode_self there), entry?_of_dir listed,
    List.find?_append, Option.map_or]
  congr 1
  by_cases own : other = name
  · simp [own]
  · simp [own, Ne.symm own]

end

end MountProbe.FileTree
