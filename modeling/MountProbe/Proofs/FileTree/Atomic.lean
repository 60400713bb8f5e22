import MountProbe.Proofs.FileTree.Above
import MountProbe.Proofs.FileTree.Prepared
import Mathlib.Data.List.Permutation

/-! Publishing is atomic for a reader. Making the directories above a file leaves a reader with what
was found before, and from there on the old text is found until the new one is. -/
namespace MountProbe.Textfile

open FileTree (Agree Bare ending)

section

variable {t u : FileTree} {p q above : Path} {k : NodeId} {n c rest : Bytes} {fault : IoFault}

theorem continues_temporary (continues : p.Continues q rest) :
    (temporary p).Continues q (rest ++ ending) := by
  rcases continues with follows | ⟨root, follows⟩
  · left
    rw [FileTree.raw_temporary, follows, List.append_assoc, List.cons_append]
  · right
    exact ⟨root, by rw [FileTree.raw_temporary, follows, List.cons_append]⟩

section

variable (bare : Bare u q k) (continues : p.Continues q rest) (filled : q.isEmpty = false)
  (no_up : [Path.dot, Path.dot] ∉ FileTree.steps rest) (step : n ∈ FileTree.steps rest)
  (real : n ≠ [Path.dot])

include bare continues filled no_up

theorem spotOf_temporary_of_bare {spot : FileTree.Spot}
    (found : u.spotOf (temporary p) = .ok spot) : ∃ init last,
      FileTree.steps rest = init ++ [last].filter (fun q => !q.isEmpty) ∧
      (∀ q ∈ init, q = [Path.dot]) ∧ spot = .entry k (last ++ ending) := by
  obtain ⟨init, last, short, long, -⟩ := FileTree.steps_ending rest
  have under := FileTree.under_of_continues (continues_temporary continues) filled
  have no_up' : [Path.dot, Path.dot] ∉ FileTree.steps (rest ++ ending) := by
    rw [long, List.mem_append, List.mem_singleton]
    rintro (up | up)
    · apply no_up
      rw [short]
      exact List.mem_append_left _ up
    · exact FileTree.append_ending_ne (by decide) last up.symm
  have step : last ++ ending ∈ FileTree.steps (rest ++ ending) := by
    rw [long]
    exact List.mem_append_right _ List.mem_cons_self
  obtain ⟨dots, m, split, all, entry⟩ :=
    bare.spotOf under no_up' step (FileTree.append_ending_ne (by decide) last) found
  rw [long] at split
  obtain ⟨rfl, same⟩ := List.append_inj' split rfl
  cases same
  exact ⟨init, last, short, all, entry⟩

include step real

/-- The new file beside is not what the path leads to. -/
theorem apart_of_bare {v : FileTree} {i : NodeId} (opened : u.openFile (temporary p) = .ok (v, i)) :
    v.find p ≠ .ok i := by
  intro found
  obtain ⟨spot, beside⟩ := FileTree.spotOf_of_openFile opened
  obtain ⟨init, last, short, dots, rfl⟩ :=
    spotOf_temporary_of_bare bare continues filled no_up beside
  obtain ⟨parent, es, closed, listed⟩ := FileTree.isDirNode_iff.mp bare.isDir
  obtain ⟨links, opens⟩ := FileTree.openFile_eq (no_slash_temporary p) beside
  rw [opens, FileTree.openSpot, bare.entry?] at opened
  dsimp only at opened
  cases closed with
  | true =>
    simp only [FileTree.create, listed] at opened
    cases opened
  | false =>
    rw [FileTree.create_eq listed] at opened
    cases opened
    have agree := FileTree.agree_withFile (n := last ++ ending) listed
    obtain ⟨spot, spotted, there⟩ := FileTree.spotOf_of_find found
    have under := FileTree.under_of_continues continues filled
    obtain ⟨dots', m, split, all, rfl⟩ :=
      bare.spotOf under no_up step real (agree.spotOf_eq_ok.mp spotted)
    have still := there k m rfl
    rw [FileTree.entry?_withFile listed, bare.entry?, Option.none_or] at still
    split at still
    · -- Then the path would end in the same step as the name of the file beside.
      rename_i same
      rw [short, same] at split
      cases last with
      | nil =>
        rw [List.filter_cons_of_neg (by simp), List.filter_nil, List.append_nil] at split
        have member : ending ∈ init := by
          rw [split]
          exact List.mem_append_right _ List.mem_cons_self
        exact FileTree.append_ending_ne (by decide) [] (dots _ member)
      | cons b bs =>
        rw [List.filter_cons_of_pos (by simp), List.filter_nil] at split
        have equal := (List.append_inj' split rfl).2
        exact ne_ending (b :: bs) (List.cons.inj equal).1
    · cases still

theorem fit_of_bare (sound : u.Sound) : Fit p u where
  sound := sound
  no_link d m i target spot entry := by
    obtain ⟨init, last, -, -, same⟩ := spotOf_temporary_of_bare bare continues filled no_up spot
    cases same
    rw [bare.entry?] at entry
    cases entry
  apart v i opened := apart_of_bare bare continues filled no_up step real opened
  clear d m i target spot entry := by
    have under := FileTree.under_of_continues continues filled
    obtain ⟨dots, m', -, -, same⟩ := bare.spotOf under no_up step real spot
    cases same
    rw [bare.entry?] at entry
    cases entry

end

theorem lookup_of_absent (up : p.parent? = some above) (filled : above.isEmpty = false)
    (absent : t.isDir above = false) : t.lookup p = none := by
  apply FileTree.lookup_of_no_find
  intro i found
  rw [FileTree.isDir_above up filled found] at absent
  cases absent

theorem fit_of_makeAll (fit : Fit p t) (within : t.ClimbsWithin p) (up : p.parent? = some above)
    (made : t.makeAll above = (u, .ok ())) : Fit p u ∧ u.lookup p = t.lookup p := by
  by_cases there : above.isEmpty = true ∨ t.isDir above = true
  · rw [FileTree.makeDirs_of_there there made]
    exact ⟨fit, rfl⟩
  · obtain ⟨filled, absent⟩ : above.isEmpty = false ∧ t.isDir above = false := by
      simpa using there
    obtain ⟨rest, continues, n, piece, real⟩ := Path.continues_of_parent? up filled
    obtain ⟨step, no_dot⟩ := FileTree.mem_steps piece real
    have under := FileTree.under_of_continues continues filled
    obtain ⟨k, bare⟩ := FileTree.bare_of_makeDirs (within.of_under under) filled absent made
    have named := (FileTree.find_eq_ok.mp bare.find).1
    have no_up := within.no_up under named absent
    have sound : u.Sound := by
      have quiet := FileTree.quiet_makeDirs (above.raw.length + 1) t above
      rw [show FileTree.makeDirs _ t above = _ from made] at quiet
      exact quiet.sound fit.sound
    refine ⟨fit_of_bare bare continues filled no_up step no_dot sound, ?_⟩
    rw [lookup_of_absent up filled absent]
    exact FileTree.lookup_of_no_find (bare.no_find under no_up step no_dot)

theorem lookup_of_makeAll (up : p.parent? = some above)
    (failed : t.makeAll above = (u, .error fault)) : u.lookup p = t.lookup p := by
  cases filled : above.isEmpty with
  | true =>
    rw [FileTree.makeAll_of_isEmpty filled] at failed
    cases failed
  | false =>
    cases there : t.isDir above with
    | true =>
      rw [FileTree.makeAll_of_isDir there] at failed
      cases failed
    | false =>
      have absent := FileTree.absent_of_makeDirs (Nat.lt_succ_self _) failed
      rw [lookup_of_absent up filled there, lookup_of_absent up filled absent]

theorem run_cases (fit : Fit p t) (within : t.ClimbsWithin p) (r : Refusals) (c : Bytes) :
    Whole p c t (r.run t p c).states (r.run t p c).result ∨
      ∃ above fault u, p.parent? = some above ∧ r.run t p c = ⟨[u], .error (.io above fault)⟩ ∧
        u.lookup p = t.lookup p := by
  rw [Refusals.run]
  cases up : p.parent? with
  | none => exact .inl (fit.replaced r c)
  | some above =>
    dsimp only
    cases r.making with
    | some fault => exact .inr ⟨above, fault, t, rfl, rfl, rfl⟩
    | none =>
      dsimp only
      cases made : t.makeAll above with
      | mk u result =>
        cases result with
        | error fault => exact .inr ⟨above, fault, u, rfl, rfl, lookup_of_makeAll up made⟩
        | ok =>
          obtain ⟨fit', same⟩ := fit_of_makeAll fit within up made
          exact .inl ((fit'.replaced r c).cons same)

theorem write_eq (t : FileTree) (p : Path) (c : Bytes) :
    write t p c = ((Refusals.nothing.run t p c).states.getLastD t,
      (Refusals.nothing.run t p c).result) := by
  rw [Refusals.run_nothing]
  rfl

/-- At every step of a run, whatever the system refuses, a reader finds the old state at the path or
the new text. A run that succeeds leaves the new text and nothing beside it; one that fails leaves
the old state, and no file beside it unless the directories above could not be made. -/
theorem readers_find_old_or_new (fit : Fit p t) (within : t.ClimbsWithin p) (r : Refusals)
    (c : Bytes) :
    (∀ u ∈ (r.run t p c).states, u.lookup p = t.lookup p ∨ u.lookup p = some (.ok c)) ∧
      ((r.run t p c).result = .ok () →
        ((r.run t p c).states.getLastD t).lookup p = some (.ok c) ∧
        ((r.run t p c).states.getLastD t).lookup (temporary p) = none) ∧
      (∀ f, (r.run t p c).result = .error f →
        ((r.run t p c).states.getLastD t).lookup p = t.lookup p ∧
        ((∃ fault, f = .io p fault ∧
            ∀ b, ((r.run t p c).states.getLastD t).lookup (temporary p) ≠ some (.ok b)) ∨
          ∃ above fault, p.parent? = some above ∧ f = .io above fault)) ∧
      write t p c = ((Refusals.nothing.run t p c).states.getLastD t,
        (Refusals.nothing.run t p c).result) := by
  refine ⟨?_, ?_, ?_, write_eq t p c⟩
  · rcases run_cases fit within r c with whole | ⟨above, fault, u, -, ran, same⟩
    · exact whole.each
    · intro v member
      rw [ran] at member
      rw [List.mem_singleton.mp member]
      exact .inl same
  · rcases run_cases fit within r c with whole | ⟨above, fault, u, -, ran, -⟩
    · exact whole.done
    · rw [ran]
      intro done
      cases done
  · intro f failed
    rcases run_cases fit within r c with whole | ⟨above, fault, u, up, ran, same⟩
    · obtain ⟨old, nothing⟩ := whole.failed f failed
      exact ⟨old, .inl nothing⟩
    · rw [ran] at failed ⊢
      cases failed
      exact ⟨same, .inr ⟨above, fault, up, rfl⟩⟩

end

/-- A current directory with these entries. -/
def shelf (entries : List (Bytes × Node)) : FileTree where
  nodes := (.dir 0 (entries.mapIdx fun i (name, _) => (name, i + 1)) false ::
    entries.map fun (_, node) => node).toArray
  current := 0

/-- The file "m" with one byte in it. -/
def oneFile : FileTree :=
  shelf [([0x6D], .file [0x6F])]

theorem fit_oneFile : Fit ⟨[0x6D]⟩ oneFile where
  sound := FileTree.sound_of_nodes (by decide)
  no_link d n i target spot entry := by
    have beside : oneFile.spotOf (temporary ⟨[0x6D]⟩) = .ok (.entry 0 ([0x6D] ++ ending)) := by cbv
    cases beside.symm.trans spot
    have missing : oneFile.entry? 0 ([0x6D] ++ ending) = none := by cbv
    rw [missing] at entry
    cases entry
  apart u i opened := by
    have made : oneFile.openFile (temporary ⟨[0x6D]⟩) =
        .ok (oneFile.withFile 0 ([0x6D] ++ ending), 2) := by cbv
    cases made.symm.trans opened
    have found : (oneFile.withFile 0 ([0x6D] ++ ending)).find ⟨[0x6D]⟩ = .ok 1 := by cbv
    intro same
    cases found.symm.trans same
  clear d n i target spot entry link := by
    have at_file : oneFile.spotOf ⟨[0x6D]⟩ = .ok (.entry 0 [0x6D]) := by cbv
    cases at_file.symm.trans spot
    have first : oneFile.entry? 0 [0x6D] = some 1 := by cbv
    cases first.symm.trans entry
    cases link

theorem climbsWithin_oneFile : oneFile.ClimbsWithin ⟨[0x6D]⟩ := by
  intro before after climbs
  have member : [Path.dot, Path.dot] ∈ FileTree.steps [0x6D] := by
    rw [climbs]
    exact List.mem_append_right _ List.mem_cons_self
  exact absurd member (by decide)

/-- The text is replaced, and where it cannot be brought to its device the old one stays. -/
theorem readers_find_old_or_new_of_file :
    oneFile.lookup ⟨[0x6D]⟩ = some (.ok [0x6F]) ∧
      (write oneFile ⟨[0x6D]⟩ [0x6E]).1.lookup ⟨[0x6D]⟩ = some (.ok [0x6E]) ∧
      (({ Refusals.nothing with syncing := some .noSpace }.run oneFile ⟨[0x6D]⟩ [0x6E]).states.getLastD
        oneFile).lookup ⟨[0x6D]⟩ = some (.ok [0x6F]) := by
  have old : oneFile.lookup ⟨[0x6D]⟩ = some (.ok [0x6F]) := by cbv
  refine ⟨old, ?_, ?_⟩
  · have done : (Refusals.nothing.run oneFile ⟨[0x6D]⟩ [0x6E]).result = .ok () := by cbv
    obtain ⟨-, new, -, same⟩ :=
      readers_find_old_or_new fit_oneFile climbsWithin_oneFile Refusals.nothing [0x6E]
    rw [same]
    exact (new done).1
  · have refused : ({ Refusals.nothing with syncing := some .noSpace }.run oneFile ⟨[0x6D]⟩
        [0x6E]).result = .error (.io ⟨[0x6D]⟩ (.os .noSpace)) := by cbv
    obtain ⟨-, -, stays, -⟩ := readers_find_old_or_new fit_oneFile climbsWithin_oneFile
      { Refusals.nothing with syncing := some .noSpace } [0x6E]
    rw [(stays _ refused).1, old]

/-- The link "l" to the directory in which it stands. -/
def ownLink : FileTree :=
  shelf [([0x6C], .link [0x2E])]

/-- The link "m" to "m.tmp", which is missing. -/
def linkBeside : FileTree :=
  shelf [([0x6D], .link ([0x6D] ++ ending))]

/-- The file "m", and a directory where the file beside is to be. -/
def blocked : FileTree :=
  shelf [([0x6D], .file [0x6F]), ([0x6D] ++ ending, .dir 0 [] false)]

/-- A path that is looked up through the link that stands there leads nowhere once the link is
replaced. Where it is a link to the file beside it, a reader finds that empty. Where it climbs out of
a directory that is made for it, a run that fails leaves it leading to a file that it did not lead
to. -/
theorem readers_find_neither :
    (ownLink.Sound ∧
      ownLink.spotOf (temporary ⟨[0x6C, 0x2F, 0x6C]⟩) = .ok (.entry 0 ([0x6C] ++ ending)) ∧
      ownLink.entry? 0 ([0x6C] ++ ending) = none ∧
      (write ownLink ⟨[0x6C, 0x2F, 0x6C]⟩ [0x6E]).2 = .ok () ∧
      (write ownLink ⟨[0x6C, 0x2F, 0x6C]⟩ [0x6E]).1.lookup ⟨[0x6C, 0x2F, 0x6C]⟩ = none) ∧
    (linkBeside.Sound ∧
      linkBeside.spotOf (temporary ⟨[0x6D]⟩) = .ok (.entry 0 ([0x6D] ++ ending)) ∧
      linkBeside.entry? 0 ([0x6D] ++ ending) = none ∧
      linkBeside.lookup ⟨[0x6D]⟩ = none ∧
      ∃ u ∈ (run linkBeside ⟨[0x6D]⟩ [0x6E]).states, u.lookup ⟨[0x6D]⟩ = some (.ok [])) ∧
    (blocked.Sound ∧ blocked.entry? 0 ([0x6D] ++ ending) = some 2 ∧ blocked.isDirNode 2 = true ∧
      blocked.lookup ⟨[0x61, 0x2F, 0x2E, 0x2E, 0x2F, 0x6D]⟩ = none ∧
      (∃ f, (write blocked ⟨[0x61, 0x2F, 0x2E, 0x2E, 0x2F, 0x6D]⟩ [0x6E]).2 = .error f) ∧
      (write blocked ⟨[0x61, 0x2F, 0x2E, 0x2E, 0x2F, 0x6D]⟩ [0x6E]).1.lookup
        ⟨[0x61, 0x2F, 0x2E, 0x2E, 0x2F, 0x6D]⟩ = some (.ok [0x6F])) := by
  refine ⟨⟨FileTree.sound_of_nodes (by decide), by cbv, by cbv, by cbv, by cbv⟩,
    ⟨FileTree.sound_of_nodes (by decide), by cbv, by cbv, by cbv, ?_⟩,
    ⟨FileTree.sound_of_nodes (by decide), by cbv, by cbv, by cbv, ⟨_, by cbv⟩, by cbv⟩⟩
  have opened : (run linkBeside ⟨[0x6D]⟩ [0x6E]).states[1]? =
      some (linkBeside.withFile 0 ([0x6D] ++ ending)) := by cbv
  exact ⟨_, List.mem_of_getElem? opened, by cbv⟩

end MountProbe.Textfile
