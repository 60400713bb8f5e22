import MountProbe.Proofs.Journal.Places
import MountProbe.Proofs.Journal.Touches

namespace MountProbe.Journal

open FileTree

/-- Each log stands in its place, and the file is no link and none that a name of a log leads to or
that is open. -/
structure Apart (c : Config) (d : NodeId) (n : Bytes) (h : Hold) : Prop where
  stands : c.Stands h.tree
  spots : ∀ base ∈ c.bases, ∀ j ≤ c.maxRotatedFiles,
    h.tree.spotOf (logPath base j) ≠ .ok (.entry d n)
  file : ∀ i, h.tree.entry? d n = some i → i < h.tree.nodes.size ∧
    (∀ target, h.tree.node i ≠ .link target) ∧ ¬ c.Names h.tree i ∧ h.file ≠ some i

/-- What a change may do to the names of logs and to the files they lead to. -/
structure Spares (c : Config) (d : NodeId) (n : Bytes) (t u : FileTree) : Prop where
  ways : t.Ways u
  stands : c.Stands u
  size : t.nodes.size ≤ u.nodes.size
  entry : u.entry? d n = t.entry? d n
  links : ∀ i target, u.node i = .link target → t.node i = .link target
  names : ∀ i < t.nodes.size, c.Names u i → c.Names t i

section

variable {c : Config} {d dir dir₀ : NodeId} {n name name₀ content bytes : Bytes} {g h : Hold}
  {t u : FileTree} {base : Path} {i j x kept : Nat} {f : Nat → Option NodeId}
  {o : Option NodeId}

theorem Apart.no_link (apart : Apart c d n h) : ¬ h.tree.LinkAt d n := by
  rintro ⟨i, target, entry, link⟩
  exact (apart.file i entry).2.1 target link

theorem Apart.avoids (apart : Apart c d n h) : Avoids c d n h where
  names base own j low :=
    ⟨apart.spots base own j low, fun link => absurd link apart.no_link⟩
  file i opened arrived :=
    (apart.file i (entry?_of_arrive apart.no_link arrived)).2.2.2 opened

theorem Config.Stands.spotOf (stands : c.Stands t) (ways : t.Ways u) (own : base ∈ c.bases)
    (low : j ≤ c.maxRotatedFiles) : u.spotOf (logPath base j) = t.spotOf (logPath base j) := by
  obtain ⟨dir, name, shelf⟩ := stands base own
  rw [shelf.spots j low]
  exact spotOf_of_ways ways (shelf.spots j low)

theorem Apart.spared (apart : Apart c d n ⟨t, o⟩) (spares : Spares c d n t u)
    {file : Option NodeId} (other : ∀ i, t.entry? d n = some i → file ≠ some i) :
    Apart c d n ⟨u, file⟩ where
  stands := spares.stands
  spots base own j low := by
    rw [apart.stands.spotOf spares.ways own low]
    exact apart.spots base own j low
  file i entry := by
    have before : t.entry? d n = some i := spares.entry.symm.trans entry
    obtain ⟨inside, no_link, no_name, -⟩ := apart.file i before
    exact ⟨Nat.lt_of_lt_of_le inside spares.size,
      fun target link => no_link target (spares.links i target link),
      fun named => no_name (spares.names i inside named), other i before⟩

theorem Config.Stands.names_before (stands : c.Stands t)
    (led : ∀ base ∈ c.bases, ∀ dir name, Shelf t base c.maxRotatedFiles dir name →
      Shelf u base c.maxRotatedFiles dir name ∧
        ∀ j ≤ c.maxRotatedFiles, slot u dir name j = some i → c.Names t i)
    (named : c.Names u i) : c.Names t i := by
  obtain ⟨base, own, j, low, found⟩ := named
  obtain ⟨dir, name, shelf⟩ := stands base own
  obtain ⟨after, before⟩ := led base own dir name shelf
  exact before j low ((after.find_iff low).mp found)

theorem Shelf.names (shelf : Shelf t base c.maxRotatedFiles dir name) (own : base ∈ c.bases)
    (low : j ≤ c.maxRotatedFiles) (here : slot t dir name j = some i) : c.Names t i :=
  ⟨base, own, j, low, (shelf.find_iff low).mpr here⟩

theorem spares_extended (stands : c.Stands t) (there : t.contents? x = some content)
    (bytes : Bytes) : Spares c d n t (t.extended x bytes) where
  ways := ways_extended there bytes
  stands := stands.extended there bytes
  size := by
    rw [extended_eq there, size_setNode]
  entry := entry?_extended there bytes
  links i target link := by
    by_cases own : i = x
    · rw [own, node_of_contents (contents?_extended there bytes)] at link
      cases link
    · rwa [node_extended_ne there own] at link
  names i _ := by
    refine stands.names_before fun base own dir name shelf => ?_
    refine ⟨shelf.extended there bytes, fun j low here => shelf.names own low ?_⟩
    rwa [slot_extended there] at here

theorem spares_withFile {parent : NodeId} {es : List (Bytes × NodeId)} (stands : c.Stands t)
    (listed : t.node dir₀ = .dir parent es false) (other : ¬ (d = dir₀ ∧ n = name₀)) :
    Spares c d n t (t.withFile dir₀ name₀) where
  ways := ways_withFile listed
  stands base own := by
    obtain ⟨dir, name, shelf⟩ := stands base own
    exact ⟨dir, name, shelf.beside_file listed name₀⟩
  size := by
    rw [(relisted_withFile listed name₀).size, Array.size_push]
    exact Nat.le_succ _
  entry := by
    by_cases own : d = dir₀
    · subst own
      rw [entry?_withFile listed, if_neg fun same => other ⟨rfl, same⟩, Option.or_none]
    · exact entry?_withFile_ne listed own
  links i target link := by
    have alike := alike_withFile (i + 1) t dir₀ name₀
    exact alike.link_of_ne (Nat.ne_of_lt (Nat.lt_succ_self i)) link
  names i inside := by
    refine stands.names_before fun base own dir name shelf => ?_
    refine ⟨shelf.beside_file listed name₀, fun j low here => shelf.names own low ?_⟩
    have agree := agree_withFile (n := name₀) listed
    exact (agree.entries dir _ i (Nat.ne_of_lt inside)).mp here

theorem spares_renamed (stands : c.Stands t) (own : base ∈ c.bases)
    (shelf : Shelf t base c.maxRotatedFiles dir₀ name₀) (change : Renamed dir₀ name₀ f t u)
    (only : Reorders c.maxRotatedFiles f (slot t dir₀ name₀))
    (other : ∀ j ≤ c.maxRotatedFiles, ¬ (d = dir₀ ∧ n = logName name₀ j)) :
    Spares c d n t u where
  ways := change.ways
  stands base' own' := by
    obtain ⟨dir, name, shelf'⟩ := stands base' own'
    exact ⟨dir, name, shelf'.beside change only shelf⟩
  size := Nat.le_of_eq change.relisted.size.symm
  entry := by
    rcases change.elsewhere only d n with ⟨same, j, low, named⟩ | same
    · exact absurd ⟨same, named⟩ (other j low)
    · exact same
  links i target link := by
    by_cases dir : i = dir₀
    · obtain ⟨parent, es, es', before, after⟩ := change.relisted.isOpen
      rw [dir, after] at link
      cases link
    · rwa [change.relisted.node dir] at link
  names i _ := by
    refine stands.names_before fun base' own' dir name shelf' => ?_
    refine ⟨shelf'.beside change only shelf, fun j low here => ?_⟩
    rcases change.led_before only here with ⟨k, k_low, there⟩ | there
    · exact shelf.names own k_low there
    · exact shelf'.names own' low there

theorem Apart.wrote (apart : Apart c d n ⟨t, some x⟩) (written : t.append x bytes = .ok u) :
    Apart c d n ⟨u, some x⟩ := by
  rcases append_cases written with ⟨rfl, -⟩ | ⟨content, there, rfl⟩
  · exact apart
  · rw [← extended_eq there]
    exact apart.spared (spares_extended apart.stands there bytes) fun i entry =>
      (apart.file i entry).2.2.2

theorem Apart.opened (apart : Apart c d n ⟨t, o⟩) (own : base ∈ c.bases)
    (opened : t.openFile base = .ok (u, x)) : Apart c d n ⟨u, some x⟩ := by
  obtain ⟨dir, name, shelf⟩ := apart.stands base own
  have spot := shelf.spots 0 (Nat.zero_le _)
  cases here : slot t dir name 0 with
  | some y =>
    obtain ⟨content, there⟩ := shelf.leads 0 (Nat.zero_le _) y here
    cases (openFile_of_entry shelf.no_slash spot here there).symm.trans opened
    refine ⟨apart.stands, apart.spots, fun i entry => ?_⟩
    obtain ⟨inside, no_link, no_name, -⟩ := apart.file i entry
    refine ⟨inside, no_link, no_name, ?_⟩
    rintro ⟨⟩
    exact no_name (shelf.names own (Nat.zero_le _) here)
  | none =>
    obtain ⟨parent, es, listed⟩ := shelf.isOpen
    cases (openFile_of_missing shelf.no_slash spot listed here).symm.trans opened
    refine apart.spared (spares_withFile apart.stands listed ?_) fun i entry => ?_
    · rintro ⟨rfl, rfl⟩
      exact apart.spots base own 0 (Nat.zero_le _) spot
    · rintro ⟨⟩
      exact Nat.lt_irrefl _ (apart.file _ entry).1

/-- A change of names that only reorders what the names of one log lead to. -/
theorem Apart.reordered (apart : Apart c d n ⟨t, o⟩) (own : base ∈ c.bases)
    (shelf : Shelf t base c.maxRotatedFiles dir name) (change : Renamed dir name f t u)
    (only : Reorders c.maxRotatedFiles f (slot t dir name)) : Apart c d n ⟨u, none⟩ := by
  refine apart.spared (spares_renamed apart.stands own shelf change only ?_)
    fun _ _ opened => nomatch opened
  rintro j low ⟨rfl, rfl⟩
  exact apart.spots base own j low (shelf.spots j low)

theorem Apart.touch (apart : Apart c d n g) (touch : Touch c g h) : Apart c d n h := by
  cases touch with
  | wrote written => exact apart.wrote written
  | closed t x =>
    refine ⟨apart.stands, apart.spots, fun i entry => ?_⟩
    obtain ⟨inside, no_link, no_name, -⟩ := apart.file i entry
    exact ⟨inside, no_link, no_name, fun opened => nomatch opened⟩
  | furnished t own up =>
    obtain ⟨dir, name, shelf⟩ := apart.stands _ own
    rw [shelf.makeAll up]
    exact apart
  | opened own opened => exact apart.opened own opened
  | @renamed base t u j own low renamed =>
    obtain ⟨dir, name, shelf⟩ := apart.stands base own
    have moved := shelf.rename low
    rw [renamed] at moved
    dsimp only at moved
    rw [moved]
    exact apart.reordered own shelf (shelf.moved low) (reorders_passOn low _)
  | @removed base t u own nothing_kept removed =>
    obtain ⟨dir, name, shelf⟩ := apart.stands base own
    have none_kept : Shelf t base 0 dir name := nothing_kept ▸ shelf
    have change := none_kept.removed
    have way : Writer.makeWay base 0 t = u := by rw [makeWay_zero, removed]
    rw [way] at change
    have only := reorders_wayMade 0 (slot t dir name)
    rw [← nothing_kept] at only
    exact apart.reordered own shelf (nothing_kept ▸ change) only

theorem Apart.leaves (apart : Apart c d n h) : Leaves c d n h := by
  intro g touches
  refine Apart.avoids ?_
  induction touches with
  | refl => exact apart
  | tail _ last ih => exact ih.touch last

end

end MountProbe.Journal
