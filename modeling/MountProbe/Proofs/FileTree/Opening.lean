import MountProbe.Proofs.FileTree.Publishing

namespace MountProbe.FileTree

inductive Opens (t : FileTree) : FileTree → NodeId → Prop where
  | there {i : NodeId} : ¬ t.LeadsOn i → Opens t t i
  | made {d parent : NodeId} {n : Bytes} {es : List (Bytes × NodeId)} :
    t.node d = .dir parent es false → t.entry? d n = none → Opens t (t.withFile d n) t.nodes.size

section

variable {t u : FileTree} {i d : NodeId} {n : Bytes} {p : Path} {links : Nat} {spot : Spot}

theorem Opens.ways (opens : Opens t u i) : Ways t u := by
  cases opens with
  | there => exact .refl t
  | made listed => exact ways_withFile listed

theorem opens_of_create (missing : t.entry? d n = none)
    (made : t.create d n (.file []) = .ok (u, i)) :
    Opens t u i ∧ FileTree.entry? u d n = some i ∧ u.contents? i = some [] := by
  cases listed : t.node d with
  | dir parent es closed =>
    cases closed with
    | true =>
      rw [create, listed] at made
      cases made
    | false =>
      rw [create_eq listed] at made
      cases made
      refine ⟨.made listed missing, ?_, ?_⟩
      · rw [entry?_withFile listed, missing, if_pos rfl, Option.none_or]
      · rw [contents?_withFile listed, if_pos rfl]
  | file c | link target | full =>
    rw [create, listed] at made
    cases made

theorem opens_of_openSpot (opened : t.openSpot links spot = .ok (u, i)) :
    Opens t u i ∧ u.arrive links spot = .ok i := by
  fun_induction t.openSpot links spot with
  | case1 links d => cases opened
  | case2 links d n missing =>
    obtain ⟨opens, entry, there⟩ := opens_of_create missing opened
    refine ⟨opens, ?_⟩
    rw [arrive, entry]
    simp only [node_of_contents there]
  | case3 links d n child entry parent es closed listed => cases opened
  | case4 d n child entry target link => cases opened
  | case5 d n child entry target link fewer fault far => cases opened
  | case6 d n child entry target link fewer spot left near slash => cases opened
  | case7 d n child entry target link fewer spot left near no_slash ih =>
    obtain ⟨opens, arrived⟩ := ih opened
    refine ⟨opens, ?_⟩
    have routes := opens.ways.routes
    have kept := routes.entries d n child entry (.inr ⟨target, link⟩)
    rw [arrive, kept]
    simpa only [routes.links child target link, stepsInto, if_neg no_slash,
      locate_of_routes routes near] using arrived
  | case8 links d n child entry no_dir no_link =>
    cases opened
    refine ⟨.there ?_, ?_⟩
    · rintro (is_dir | ⟨target, link⟩)
      · obtain ⟨parent, es, closed, dir⟩ := isDirNode_iff.mp is_dir
        exact no_dir parent es closed dir
      · exact no_link target link
    · rw [arrive, entry]
      dsimp only
      split
      · rename_i target link
        exact absurd link (no_link target)
      · rfl

theorem opens_of_openFile (opened : t.openFile p = .ok (u, i)) :
    Opens t u i ∧ u.find p = .ok i := by
  unfold openFile at opened
  obtain ⟨_, named, opened⟩ := bind_eq_ok.mp opened
  obtain ⟨⟨spot, links⟩, located, opened⟩ := bind_eq_ok.mp opened
  dsimp only at opened
  split at opened
  · cases opened
  · rename_i no_slash
    obtain ⟨opens, arrived⟩ := opens_of_openSpot (lift_eq_ok.mp opened)
    refine ⟨opens, find_eq_ok.mpr ⟨named, spot, links, ?_, arrived⟩⟩
    rw [stepsInto, if_neg no_slash, opens.ways.current]
    exact locate_of_routes opens.ways.routes (lift_eq_ok.mp located)

structure Grows (i : NodeId) (bytes : Bytes) (t u : FileTree) : Prop where
  contents : ∀ d, u.contents? i = some d → ∃ c, t.contents? i = some c ∧ d = c ++ bytes
  finds : ∀ p, t.find p = .ok i → u.find p = .ok i

theorem Grows.refl (i : NodeId) (t : FileTree) : Grows i [] t t :=
  ⟨fun d there => ⟨d, there, (List.append_nil d).symm⟩, fun _ found => found⟩

theorem Grows.trans {v : FileTree} {bytes more : Bytes} (first : Grows i bytes t u)
    (last : Grows i more u v) : Grows i (bytes ++ more) t v := by
  refine ⟨fun e after => ?_, fun p found => last.finds p (first.finds p found)⟩
  obtain ⟨d, between, rfl⟩ := last.contents e after
  obtain ⟨c, before, rfl⟩ := first.contents d between
  exact ⟨c, before, List.append_assoc ..⟩

theorem grows_setFile {c bytes : Bytes} (there : t.contents? i = some c) :
    Grows i bytes t (t.setNode i (.file (c ++ bytes))) := by
  have after : (t.setNode i (.file (c ++ bytes))).contents? i = some (c ++ bytes) :=
    contents?_eq_some.mpr (getElem?_setNode_self (lt_of_contents there))
  refine ⟨fun d found => ⟨c, there, Option.some.inj (found.symm.trans after)⟩, fun p => ?_⟩
  exact find_of_routes current_setNode (ways_setFile there _).routes
    (fun e n entry => (entry?_setFile there _).trans entry)
    (fun target link => absurd (.inr ⟨target, link⟩) (not_leadsOn_of_contents after))

theorem append_cases {bytes : Bytes} (appended : t.append i bytes = .ok u) :
    u = t ∧ (bytes = [] ∨ t.nodes.size ≤ i) ∨
      ∃ c, t.contents? i = some c ∧ u = t.setNode i (.file (c ++ bytes)) := by
  unfold append at appended
  split at appended
  · rename_i nothing
    cases appended
    exact .inl ⟨rfl, .inl (List.isEmpty_iff.mp nothing)⟩
  · split at appended
    · rename_i c listed
      cases appended
      by_cases inside : i < t.nodes.size
      · exact .inr ⟨c, Textfile.contents?_of_file inside listed, rfl⟩
      · have outside := Nat.le_of_not_lt inside
        refine .inl ⟨?_, .inr outside⟩
        rw [setNode, Array.setIfInBounds_eq_of_size_le outside]
    · cases appended
    · cases appended

theorem grows_of_append {bytes : Bytes} (appended : t.append i bytes = .ok u) :
    Grows i bytes t u := by
  rcases append_cases appended with ⟨rfl, rfl | outside⟩ | ⟨c, there, rfl⟩
  · exact .refl i u
  · exact ⟨fun d there => absurd (lt_of_contents there) (Nat.not_lt.mpr outside),
      fun _ found => found⟩
  · exact grows_setFile there

end

end MountProbe.FileTree
