import MountProbe.Proofs.FileTree.Held
import MountProbe.Proofs.FileTree.Quiet
import MountProbe.Proofs.FileTree.Stretches
import MountProbe.Proofs.Path.Above

namespace MountProbe.FileTree

/-- Wherever the name climbs by "..", it climbs out of a directory that is there. -/
def ClimbsWithin (t : FileTree) (p : Path) : Prop :=
  ∀ before after, steps p.raw = before ++ [Path.dot, Path.dot] :: after →
    ∃ found, t.locate mostLinks (startOf t.current p.raw) (before ++ [[Path.dot]]) = .ok found

structure Under (q : Path) (later : List Bytes) (p : Path) : Prop where
  steps : steps p.raw = FileTree.steps q.raw ++ later
  start : ∀ dir, startOf dir p.raw = startOf dir q.raw

/-- The name leads to a directory without entries. -/
structure Bare (t : FileTree) (p : Path) (k : NodeId) : Prop where
  find : t.find p = .ok k
  isDir : t.isDirNode k = true
  empty : t.entriesOf k = []

/-- What a call for the directories of a name does. It makes the one it is for, at once or after those
above it, or finds it there or not, or ends as the call for those above it did. -/
inductive Makes (fuel : Nat) (t : FileTree) (p : Path) :
    FileTree → Except IoFault Unit → Prop where
  | here {u : FileTree} : t.makeDir p = .ok u → Makes fuel t p u (.ok ())
  | later {above : Path} {v u : FileTree} : p.parent? = some above →
    makeDirs fuel t above = (v, .ok ()) → v.makeDir p = .ok u → Makes fuel t p u (.ok ())
  | settled {result : Except IoFault Unit} : (result = .ok () ↔ t.isDir p = true) →
    Makes fuel t p t result
  | after {above : Path} {v : FileTree} {result : Except IoFault Unit} : p.parent? = some above →
    makeDirs fuel t above = (v, .ok ()) → (result = .ok () ↔ v.isDir p = true) →
    Makes fuel t p v result
  | refused {above : Path} {v : FileTree} {fault : IoFault} : p.parent? = some above →
    makeDirs fuel t above = (v, .error fault) → Makes fuel t p v (.error fault)

section

variable {t u : FileTree} {p q above : Path} {k i : NodeId} {later : List Bytes} {raw rest : Bytes}
  {n : Bytes} {fault : IoFault} {found : Spot × Nat} {spot : Spot} {links fuel : Nat}

theorem steps_append_slash (a b : Bytes) :
    steps (a ++ Path.slash :: b) = steps a ++ steps b := by
  rw [steps, Path.splitAtSlashes_append_slash, List.filter_append]
  rfl

theorem mem_steps (piece : n ∈ Path.splitAtSlashes rest) (real : Path.isIdle n = false) :
    n ∈ steps rest ∧ n ≠ [Path.dot] := by
  have idle : ¬(n = [] ∨ n = [Path.dot]) := by
    simpa [Path.isIdle] using real
  refine ⟨List.mem_filter.mpr ⟨piece, ?_⟩, fun here => idle (.inr here)⟩
  simpa using fun empty => idle (.inl empty)

theorem stepsInto_eq (raw : Bytes) :
    ∃ stay, stepsInto raw = steps raw ++ stay ∧ (stay = [] ∨ stay = [[Path.dot]]) := by
  rw [stepsInto]
  split
  · exact ⟨_, rfl, .inr rfl⟩
  · exact ⟨[], (List.append_nil _).symm, .inl rfl⟩

theorem under_of_continues (continues : p.Continues q rest) (named : q.isEmpty = false) :
    Under q (steps rest) p := by
  obtain ⟨raw⟩ := q
  have filled : raw ≠ [] := by simpa [Path.isEmpty] using named
  rcases continues with follows | ⟨root, follows⟩
  · refine ⟨by rw [follows, steps_append_slash], fun dir => ?_⟩
    rw [follows, startOf, startOf, List.head?_append_of_ne_nil _ filled]
  · refine ⟨?_, fun dir => by rw [follows, root]; rfl⟩
    have split := steps_append_slash [] rest
    rw [follows, root]
    exact split

theorem length_of_continues (continues : p.Continues q rest) (some : rest ≠ []) :
    q.raw.length < p.raw.length := by
  have rest_pos := List.length_pos_iff.mpr some
  rcases continues with follows | ⟨root, follows⟩
  · rw [follows, List.length_append, List.length_cons]
    omega
  · rw [follows, root, List.length_cons, List.length_cons, List.length_nil]
    omega

theorem checkName_of_continues (continues : p.Continues q rest) (filled : q.isEmpty = false)
    (named : checkName p = .ok ()) : checkName q = .ok () := by
  have front : q.raw <+: p.raw := by
    rcases continues with follows | ⟨root, follows⟩
    · exact ⟨_, follows.symm⟩
    · exact ⟨rest, by rw [follows, root]; rfl⟩
  have shorter := front.length_le
  rw [checkName] at named
  split at named
  · cases named
  · rename_i no_zero
    split at named
    · cases named
    · split at named
      · cases named
      · rw [checkName, if_neg, if_neg, if_neg (by omega)]
        · simpa [Path.isEmpty] using filled
        · intro zero
          apply no_zero
          rw [List.contains_iff_mem] at zero ⊢
          exact front.subset zero

theorem Under.stepsInto (under : Under q later p) :
    ∃ later', FileTree.stepsInto p.raw = FileTree.steps q.raw ++ later' ∧
      ∀ n, n ≠ [Path.dot] → (n ∈ later' ↔ n ∈ later) := by
  obtain ⟨stay, into, either⟩ := stepsInto_eq p.raw
  refine ⟨later ++ stay, by rw [into, under.steps, List.append_assoc], fun n other => ?_⟩
  rcases either with rfl | rfl <;> simp [other]

theorem isDir_of_find (under : Under q later p) (named : checkName q = .ok ())
    (step : n ∈ later) (real : n ≠ [Path.dot]) (found : t.find p = .ok i) :
    t.isDir q = true := by
  obtain ⟨-, spot, links, located, -⟩ := find_eq_ok.mp found
  obtain ⟨later', into, same⟩ := under.stepsInto
  rw [into, under.start] at located
  exact isDir_of_below named (List.ne_nil_of_mem ((same n real).mpr step)) located

theorem isDir_above (up : p.parent? = some above) (filled : above.isEmpty = false)
    (found : t.find p = .ok i) : t.isDir above = true := by
  obtain ⟨rest, continues, n, piece, real⟩ := Path.continues_of_parent? up filled
  obtain ⟨step, no_dot⟩ := mem_steps piece real
  have named := checkName_of_continues continues filled (find_eq_ok.mp found).1
  exact isDir_of_find (under_of_continues continues filled) named step no_dot found

/-- In a directory without entries no step but the last leads anywhere. -/
theorem locate_of_empty (empty : t.entriesOf k = []) (no_up : [Path.dot, Path.dot] ∉ later)
    (located : t.locate links k later = .ok found) :
    (∀ q ∈ later, q = [Path.dot]) ∨
      ∃ dots m, later = dots ++ [m] ∧ (∀ q ∈ dots, q = [Path.dot]) ∧ found.1 = .entry k m := by
  induction later with
  | nil => exact .inl (by simp)
  | cons p later ih =>
    obtain ⟨ne, no_up⟩ := List.ne_and_not_mem_of_not_mem_cons no_up
    have is_dir := isDirNode_of_locate (List.cons_ne_nil p later) located
    rw [locate, if_neg (by simp [is_dir])] at located
    split at located
    · cases located
    · split at located
      · rename_i here
        rcases ih no_up located with dots | ⟨dots, m, split, all, entry⟩
        · left
          intro q member
          rcases List.mem_cons.mp member with rfl | member
          · exact here
          · exact dots q member
        · right
          refine ⟨p :: dots, m, by rw [split, List.cons_append], ?_, entry⟩
          intro q member
          rcases List.mem_cons.mp member with rfl | member
          · exact here
          · exact all q member
      · rw [if_neg (Ne.symm ne)] at located
        split at located
        · rename_i last
          cases located
          exact .inr ⟨[], p, by rw [List.isEmpty_iff.mp last]; rfl, by simp, rfl⟩
        · have missing : t.entry? k p = none := by
            rw [FileTree.entry?, empty]
            rfl
          simp only [missing] at located
          cases located

theorem Bare.entry? (bare : Bare t q k) (m : Bytes) : FileTree.entry? t k m = none := by
  rw [FileTree.entry?, bare.empty]
  rfl

section

variable (bare : Bare t q k) (under : Under q later p) (no_up : [Path.dot, Path.dot] ∉ later)
  (step : n ∈ later) (real : n ≠ [Path.dot])

include bare under no_up step real

theorem Bare.locate {steps : List Bytes}
    (same : ∀ m, m ≠ [Path.dot] → (m ∈ steps ↔ m ∈ later))
    (located : t.locate mostLinks (startOf t.current p.raw) (FileTree.steps q.raw ++ steps) =
      .ok found) :
    ∃ dots m, steps = dots ++ [m] ∧ (∀ q ∈ dots, q = [Path.dot]) ∧ found.1 = .entry k m := by
  obtain ⟨fewer, on⟩ := locate_below bare.find bare.isDir
  have step' := (same n real).mpr step
  rw [under.start, on _ (List.ne_nil_of_mem step')] at located
  rcases locate_of_empty bare.empty (fun up => no_up ((same _ (by decide)).mp up)) located with
    dots | entry
  · exact absurd (dots n step') real
  · exact entry

theorem Bare.no_find (i : NodeId) : t.find p ≠ .ok i := by
  intro found
  obtain ⟨-, spot, links, located, arrived⟩ := find_eq_ok.mp found
  obtain ⟨later', into, same⟩ := under.stepsInto
  rw [into] at located
  obtain ⟨dots, m, -, -, entry⟩ := bare.locate under no_up step real same located
  cases entry
  rw [arrive] at arrived
  simp only [bare.entry? m] at arrived
  cases arrived

theorem Bare.spotOf (spotted : t.spotOf p = .ok spot) :
    ∃ dots m, later = dots ++ [m] ∧ (∀ q ∈ dots, q = [Path.dot]) ∧ spot = .entry k m := by
  obtain ⟨-, links, located⟩ := spotOf_eq_ok.mp spotted
  rw [under.steps] at located
  exact bare.locate under no_up step real (fun _ _ => Iff.rfl) located

end

theorem bare_of_makeDir (made : t.makeDir p = .ok u) : Bare u p t.nodes.size := by
  have grown := grown_makeDir made
  obtain ⟨d, n, parent, es, spotted, missing, listed, rfl⟩ := made_of_makeDir made
  have inside := ne_size_of_dir listed
  have listed' : (t.withDir d).node d = .dir parent es false := node_withDir_of_dir listed
  have new_dir : ((t.withDir d).addEntry d n t.nodes.size).node t.nodes.size = .dir d [] false := by
    rw [addEntry, listed', node_setNode_ne (Ne.symm inside), node_withDir]
  have new_entry : FileTree.entry? ((t.withDir d).addEntry d n t.nodes.size) d n =
      some t.nodes.size := by
    rw [entry?_addEntry listed', entry?_congr (node_withDir_ne inside), missing, if_pos rfl,
      Option.none_or]
  generalize (t.withDir d).addEntry d n t.nodes.size = u at grown new_dir new_entry
  have is_dir : u.isDirNode t.nodes.size = true := by
    rw [isDirNode, new_dir]
  refine ⟨?_, is_dir, entriesOf_of_dir new_dir⟩
  obtain ⟨named, links, located⟩ :=
    spotOf_eq_ok.mp (spotOf_of_routes grown.current grown.routes spotted)
  refine (find_dir_iff is_dir).mpr ⟨named, _, links, located, ?_⟩
  rw [arrive]
  simp only [new_entry, new_dir]

theorem ClimbsWithin.of_under (within : t.ClimbsWithin p) (under : Under q later p) :
    t.ClimbsWithin q := by
  intro before after climbs
  obtain ⟨found, located⟩ := within before (after ++ later) (by
    rw [under.steps, climbs, List.append_assoc, List.cons_append])
  exact ⟨found, by rwa [← under.start]⟩

theorem ClimbsWithin.no_up (within : t.ClimbsWithin p) (under : Under q later p)
    (named : checkName q = .ok ()) (absent : t.isDir q = false) :
    [Path.dot, Path.dot] ∉ later := by
  intro climbs
  obtain ⟨before, after, split⟩ := List.append_of_mem climbs
  obtain ⟨found, located⟩ := within (steps q.raw ++ before) after (by
    rw [under.steps, split, List.append_assoc])
  rw [under.start, List.append_assoc] at located
  rw [isDir_of_below named (by simp) located] at absent
  cases absent

theorem makeDirs_of_there (there : p.isEmpty = true ∨ t.isDir p = true) {made : Except IoFault Unit}
    (all : makeDirs fuel t p = (u, made)) : u = t := by
  cases fuel with
  | zero => exact (congrArg Prod.fst all).symm
  | succ fuel =>
    rcases there with here | there
    · rw [makeDirs_of_isEmpty here] at all
      exact (congrArg Prod.fst all).symm
    · rw [makeDirs_of_isDir there] at all
      exact (congrArg Prod.fst all).symm

theorem ok_iff_of_isDir (t : FileTree) (p : Path) (fault : IoFault) :
    (if t.isDir p then .ok () else .error fault : Except IoFault Unit) = .ok () ↔
      t.isDir p = true := by
  split <;> simp_all

theorem makes_of_makeDirs {result : Except IoFault Unit} (filled : p.isEmpty = false)
    (made : makeDirs (fuel + 1) t p = (u, result)) : Makes fuel t p u result := by
  rw [makeDirs, if_neg (by simp [filled])] at made
  split at made
  · rename_i first
    cases made
    exact .here first
  · rename_i fault first
    split at made
    · cases made
      exact .settled (ok_iff_of_isDir t p fault)
    · rename_i missing
      split at made
      · cases made
        apply Makes.settled
        constructor
        · intro done
          cases done
        · intro there
          rw [makeDir_of_isDir there] at first
          cases first
          exact absurd rfl missing
      · rename_i above up
        split at made
        · rename_i all
          cases made
          exact .refused up all
        · rename_i all
          split at made
          · rename_i last
            cases made
            exact .later up all last
          · rename_i fault' last
            cases made
            exact .after up all (ok_iff_of_isDir u p fault')

/-- Directories that were missing are made, and the last one is empty. -/
theorem bare_of_makeDirs (within : t.ClimbsWithin p) (filled : p.isEmpty = false)
    (absent : t.isDir p = false) (made : makeDirs fuel t p = (u, .ok ())) : ∃ k, Bare u p k := by
  induction fuel generalizing p u with
  | zero => cases made
  | succ fuel ih =>
    cases makes_of_makeDirs filled made with
    | here first => exact ⟨_, bare_of_makeDir first⟩
    | later up all last => exact ⟨_, bare_of_makeDir last⟩
    | settled result =>
      rw [result.mp rfl] at absent
      cases absent
    | @after above _ _ up all result =>
      -- The directory above has been made, so that it is empty, or was there.
      obtain ⟨i, found, -⟩ := isDir_iff.mp (result.mp rfl)
      by_cases settled : above.isEmpty = true ∨ t.isDir above = true
      · rw [makeDirs_of_there settled all, absent] at result
        exact absurd (result.mp rfl) Bool.false_ne_true
      · obtain ⟨filled', absent'⟩ : above.isEmpty = false ∧ t.isDir above = false := by
          simpa using settled
        obtain ⟨rest, continues, n, piece, real⟩ := Path.continues_of_parent? up filled'
        obtain ⟨step, no_dot⟩ := mem_steps piece real
        have under := under_of_continues continues filled'
        obtain ⟨k, bare⟩ := ih (within.of_under under) filled' absent' all
        have named := (find_eq_ok.mp bare.find).1
        exact absurd found (bare.no_find under (within.no_up under named absent') step no_dot i)

/-- A directory that cannot be made is missing afterwards. -/
theorem absent_of_makeDirs (enough : p.raw.length < fuel)
    (failed : makeDirs fuel t p = (u, .error fault)) : u.isDir p = false := by
  induction fuel generalizing p u fault with
  | zero => cases enough
  | succ fuel ih =>
    cases filled : p.isEmpty with
    | true =>
      rw [makeDirs_of_isEmpty filled] at failed
      cases failed
    | false =>
      cases makes_of_makeDirs filled failed with
      | settled result => simpa using result
      | after up all result => simpa using result
      | @refused above _ _ up all =>
        by_contra there
        obtain ⟨i, found, -⟩ := isDir_iff.mp (Bool.not_eq_false _ ▸ there)
        cases filled' : above.isEmpty with
        | true =>
          have some_byte : 0 < p.raw.length := by
            simpa [Path.isEmpty, List.length_pos_iff] using filled
          obtain ⟨more, rfl⟩ := Nat.exists_eq_add_one.mpr (show 0 < fuel by omega)
          rw [makeDirs_of_isEmpty filled'] at all
          cases all
        | false =>
          obtain ⟨rest, continues, n, piece, real⟩ := Path.continues_of_parent? up filled'
          have some_rest : rest ≠ [] := by
            rintro rfl
            rw [Path.splitAtSlashes, List.mem_singleton] at piece
            subst piece
            cases real
          have shorter := length_of_continues continues some_rest
          have absent := ih (by omega) all
          rw [isDir_above up filled' found] at absent
          cases absent

end

end MountProbe.FileTree
