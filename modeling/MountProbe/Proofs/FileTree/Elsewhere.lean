import MountProbe.Proofs.FileTree.Opening

namespace MountProbe.FileTree

def LinkAt (t : FileTree) (d : NodeId) (n : Bytes) : Prop :=
  ∃ i target, t.entry? d n = some i ∧ t.node i = .link target

/-- The name is not that of the entry. Where a link stands there, the name leads on nowhere, and not
to what the link leads to. -/
structure Misses (t : FileTree) (p : Path) (d : NodeId) (n : Bytes) : Prop where
  spot : t.spotOf p ≠ .ok (.entry d n)
  behind : t.LinkAt d n → ∀ e m i, t.spotOf p = .ok (.entry e m) → t.entry? e m = some i →
    ¬ t.LeadsOn i ∧ t.arrive mostLinks (.entry d n) ≠ .ok i

section

variable {t u : FileTree} {p q : Path} {d e x i k : NodeId} {n m y bytes : Bytes} {links : Nat}

theorem entry?_of_arrive (no_link : ¬ t.LinkAt d n)
    (arrived : t.arrive links (.entry d n) = .ok k) : t.entry? d n = some k := by
  rw [arrive] at arrived
  split at arrived
  · cases arrived
  · rename_i child entry
    split at arrived
    · rename_i target link
      exact absurd ⟨child, target, entry, link⟩ no_link
    · cases arrived
      exact entry

theorem kept_of_contents (contents : ∀ j, u.contents? j = t.contents? j)
    (entry : u.entry? d n = t.entry? d n)
    (way : t.LinkAt d n → ∀ k, t.arrive mostLinks (.entry d n) = .ok k →
      u.arrive mostLinks (.entry d n) = .ok k) : Kept d n t u := by
  refine ⟨fun c there => ?_, fun absent => ?_⟩
  · obtain ⟨k, arrived, holds⟩ := held_eq_some.mp there
    by_cases link : t.LinkAt d n
    · exact held_eq_some.mpr ⟨k, way link k arrived, (contents k).trans holds⟩
    · exact held_of_entry (entry.trans (entry?_of_arrive link arrived)) ((contents k).trans holds)
  · rw [heldAt, entry, ← absent, heldAt]
    exact congrArg _ (funext contents)

theorem kept_of_append (written : t.append i bytes = .ok u)
    (other : t.arrive mostLinks (.entry d n) ≠ .ok i) : Kept d n t u := by
  rcases append_cases written with ⟨rfl, -⟩ | ⟨c, there, rfl⟩
  · exact .refl u
  · have agree := agree_setFile there (c ++ bytes)
    refine ⟨fun b held => ?_, fun absent => ?_⟩
    · obtain ⟨k, arrived, holds⟩ := held_eq_some.mp held
      have ne : k ≠ i := by
        rintro rfl
        exact other arrived
      refine held_eq_some.mpr ⟨k, ?_, (contents?_congr (getElem?_setNode_ne ne)).trans holds⟩
      exact arrive_of_routes agree.routes (fun e m entry => (agree.entries e m k ne).mpr entry)
        (fun _ link => agree.toAlike.link_of_ne ne link) arrived
    · rw [heldAt, entry?_setFile there]
      rw [heldAt] at absent
      cases entry : t.entry? d n with
      | none => rfl
      | some k =>
        rw [entry, Option.bind_some] at absent
        have ne : k ≠ i := by
          rintro rfl
          rw [there] at absent
          cases absent
        rw [Option.bind_some, contents?_congr (getElem?_setNode_ne ne), absent]

theorem kept_of_openFile (opened : t.openFile p = .ok (u, i))
    (other : u.arrive mostLinks (.entry d n) ≠ .ok i) : Kept d n t u := by
  cases (opens_of_openFile opened).1 with
  | there => exact .refl t
  | @made e _ m _ listed missing =>
    have agree := agree_withFile (n := m) listed
    have new : (t.withFile e m).contents? t.nodes.size = some [] := by
      rw [contents?_withFile listed, if_pos rfl]
    -- The entry does not lead to the new file, so that what it leads to was there before.
    have ne : ∀ k, FileTree.entry? (t.withFile e m) d n = some k → k ≠ t.nodes.size := by
      rintro k entry rfl
      apply other
      rw [arrive]
      simp only [entry, node_of_contents new]
    have old : ∀ k, k ≠ t.nodes.size → (t.withFile e m).contents? k = t.contents? k := by
      intro k before
      rw [contents?_withFile listed, if_neg before]
    refine ⟨fun c held => ?_, fun absent => ?_⟩
    · obtain ⟨k, arrived, holds⟩ := held_eq_some.mp held
      have before := Nat.ne_of_lt (lt_of_contents holds)
      refine held_eq_some.mpr ⟨k, ?_, (old k before).trans holds⟩
      exact arrive_of_routes agree.routes (fun e m entry => (agree.entries e m k before).mpr entry)
        (fun _ link => agree.toAlike.link_of_ne before link) arrived
    · rw [heldAt] at absent ⊢
      cases entry : FileTree.entry? (t.withFile e m) d n with
      | none => rfl
      | some k =>
        have before := ne k entry
        rw [(agree.entries d n k before).mp entry, Option.bind_some] at absent
        rw [Option.bind_some, old k before, absent]

theorem entry?_addEntry_ne (other : ¬ (x = e ∧ y = m)) :
    FileTree.entry? (t.addEntry e m i) x y = t.entry? x y := by
  cases is_dir : t.isDirNode e with
  | true => rw [entry?_added is_dir, if_neg other]
  | false =>
    have same : t.addEntry e m i = t := by
      unfold addEntry
      split
      · rename_i parent es closed listed
        rw [isDirNode, listed] at is_dir
        cases is_dir
      · rfl
    rw [same]

theorem setNode_above {parent : NodeId} {es : List (Bytes × NodeId)} {closed : Bool}
    (listed : t.node i = .dir parent es closed) (above : NodeId) :
    (∀ x y, FileTree.entry? (t.setNode i (.dir above es closed)) x y = t.entry? x y) ∧
      ∀ j, (t.setNode i (.dir above es closed)).contents? j = t.contents? j := by
  refine ⟨fun x y => ?_, contents?_setDir listed⟩
  by_cases own : x = i
  · rw [own, entry?_of_dir (node_setNode_self (lt_of_node listed (by simp))), entry?_of_dir listed]
  · exact entry?_congr (node_setNode_ne own)

theorem move_elsewhere (t : FileTree) (e : NodeId) (m : Bytes) (d : NodeId) (n : Bytes)
    (i : NodeId) : (∀ x y, ¬ (x = e ∧ y = m) → ¬ (x = d ∧ y = n) →
        FileTree.entry? (t.move e m d n i) x y = t.entry? x y) ∧
      ∀ j, (t.move e m d n i).contents? j = t.contents? j := by
  have entries : ∀ x y, ¬ (x = e ∧ y = m) → ¬ (x = d ∧ y = n) →
      FileTree.entry? (((t.dropEntry e m).dropEntry d n).addEntry d n i) x y = t.entry? x y := by
    intro x y source target
    rw [entry?_addEntry_ne target, entry?_dropped, if_neg target, entry?_dropped, if_neg source]
  have contents : ∀ j, (((t.dropEntry e m).dropEntry d n).addEntry d n i).contents? j =
      t.contents? j := by
    intro j
    rw [contents?_addEntry, contents?_dropEntry, contents?_dropEntry]
  unfold move
  dsimp only
  split
  · rename_i parent es closed listed
    obtain ⟨entries', contents'⟩ := setNode_above listed d
    exact ⟨fun x y source target => (entries' x y).trans (entries x y source target),
      fun j => (contents' j).trans (contents j)⟩
  · exact ⟨entries, contents⟩

/-- A rename that does something moves what stands under the one name to the other. -/
theorem rename_cases (renamed : t.rename p q = .ok u) : ∃ e m d n i,
    t.spotOf p = .ok (.entry e m) ∧ t.spotOf q = .ok (.entry d n) ∧ t.entry? e m = some i ∧
      (u = t ∨ u = t.move e m d n i) := by
  unfold rename at renamed
  obtain ⟨source, at_source, renamed⟩ := bind_eq_ok.mp renamed
  obtain ⟨target, at_target, renamed⟩ := bind_eq_ok.mp renamed
  cases source with
  | here e => cases renamed
  | entry e m =>
    cases target with
    | here d => cases renamed
    | entry d n =>
      cases entry : t.entry? e m with
      | none => simp [entry] at renamed
      | some i =>
        refine ⟨e, m, d, n, i, at_source, at_target, entry, ?_⟩
        simp only [entry] at renamed
        split at renamed
        · cases renamed
        · split at renamed
          · cases renamed
            exact .inl rfl
          · right
            split at renamed
            · cases renamed
            · split at renamed
              · cases renamed
                rfl
              · split at renamed
                · cases renamed
                · cases renamed
                  rfl
              · split at renamed
                · cases renamed
                · split at renamed
                  · cases renamed
                  · cases renamed
                    rfl

theorem arrive_elsewhere (alike : Alike i t u) (ends : ¬ t.LeadsOn i)
    (entries : ∀ x y j, t.entry? x y = some j → t.LeadsOn j ∨ j = k → u.entry? x y = some j)
    (ne : k ≠ i) (arrived : t.arrive links (.entry d n) = .ok k) :
    u.arrive links (.entry d n) = .ok k :=
  arrive_of_routes (alike.routes ends fun x y j entry on => entries x y j entry (.inl on))
    (fun x y entry => entries x y k entry (.inr rfl))
    (fun _ link => alike.link_of_ne ne link) arrived

theorem kept_of_rename (renamed : t.rename p q = .ok u) (source : t.Misses p d n)
    (target : t.Misses q d n) : Kept d n t u := by
  obtain ⟨e, m, d', n', i, at_source, at_target, entry, rfl | rfl⟩ := rename_cases renamed
  · exact .refl u
  · obtain ⟨entries, contents⟩ := move_elsewhere t e m d' n' i
    have other : ¬ (d = e ∧ n = m) := by
      rintro ⟨rfl, rfl⟩
      exact source.spot at_source
    have other' : ¬ (d = d' ∧ n = n') := by
      rintro ⟨rfl, rfl⟩
      exact target.spot at_target
    refine kept_of_contents contents (entries d n other other') fun link k arrived => ?_
    obtain ⟨ends, behind⟩ := source.behind link e m i at_source entry
    have no_dir : t.isDirNode i = false := by
      by_contra is_dir
      exact ends (.inl (by simpa using is_dir))
    have alike : Alike i t (t.move e m d' n' i) := by
      rw [move_eq_of_no_dir no_dir]
      exact ((alike_dropEntry i t e m).trans (alike_dropEntry i _ d' n')).trans
        (alike_addEntry i _ d' n' i)
    have ne : k ≠ i := by
      rintro rfl
      exact behind arrived
    refine arrive_elsewhere alike ends (fun x y j there on => ?_) ne arrived
    rw [entries x y, there]
    · rintro ⟨rfl, rfl⟩
      cases entry.symm.trans there
      exact on.elim ends (Ne.symm ne)
    · rintro ⟨rfl, rfl⟩
      obtain ⟨ends', behind'⟩ := target.behind link x y j at_target there
      refine on.elim ends' ?_
      rintro rfl
      exact behind' arrived

theorem removed_cases (removed : t.remove p = .ok u) : ∃ e m i,
    t.spotOf p = .ok (.entry e m) ∧ t.entry? e m = some i ∧ t.isDirNode i = false ∧
      u = t.dropEntry e m := by
  unfold FileTree.remove at removed
  obtain ⟨spot, found, removed⟩ := bind_eq_ok.mp removed
  cases spot with
  | here e => cases removed
  | entry e m =>
    cases entry : t.entry? e m with
    | none => simp [entry] at removed
    | some i =>
      simp only [entry] at removed
      split at removed
      · cases removed
      · rename_i no_dir
        split at removed
        · cases removed
        · cases removed
          exact ⟨e, m, i, found, entry, by simpa using no_dir, rfl⟩

theorem kept_of_remove (removed : t.remove p = .ok u) (misses : t.Misses p d n) :
    Kept d n t u := by
  obtain ⟨e, m, i, found, entry, -, rfl⟩ := removed_cases removed
  have other : ¬ (d = e ∧ n = m) := by
    rintro ⟨rfl, rfl⟩
    exact misses.spot found
  refine kept_of_contents (contents?_dropEntry t e m) ?_ fun link k arrived => ?_
  · rw [entry?_dropped, if_neg other]
  · obtain ⟨ends, behind⟩ := misses.behind link e m i found entry
    have ne : k ≠ i := by
      rintro rfl
      exact behind arrived
    refine arrive_elsewhere (alike_dropEntry i t e m) ends (fun x y j there on => ?_) ne arrived
    rw [entry?_dropped, if_neg, there]
    rintro ⟨rfl, rfl⟩
    cases entry.symm.trans there
    exact on.elim ends (Ne.symm ne)

end

end MountProbe.FileTree
