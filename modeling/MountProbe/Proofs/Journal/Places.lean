import MountProbe.Proofs.Journal.Accounts

namespace MountProbe.Journal

open FileTree

/-- Each log has its names in one directory, and they lead to files or nowhere. -/
def Config.Stands (c : Config) (t : FileTree) : Prop :=
  ∀ base ∈ c.bases, ∃ dir name, Shelf t base c.maxRotatedFiles dir name

/-- One of the names of the logs leads to this. -/
def Config.Names (c : Config) (t : FileTree) (i : NodeId) : Prop :=
  ∃ base ∈ c.bases, ∃ j ≤ c.maxRotatedFiles, t.find (logPath base j) = .ok i

/-- What stood under the last name is gone when the names have moved on. -/
def Deed.Drops (c : Config) (i : NodeId) (e : Deed) : Prop :=
  ∃ base t, e = turned base t ∧ t.find (logPath base c.maxRotatedFiles) = .ok i

structure Reorders (kept : Nat) (f g : Nat → Option NodeId) : Prop where
  above : ∀ n, kept < n → f n = g n
  sources : ∀ i ≤ kept, ∀ x, f i = some x → ∃ j ≤ kept, g j = some x

section

variable {c : Config} {t u : FileTree} {base base₀ : Path} {kept i j n x : Nat}
  {dir dir₀ d : NodeId} {name name₀ m content : Bytes} {f : Nat → Option NodeId} {a b : Desk}
  {e : Deed} {es : List Deed} {s : Scene}

theorem Shelf.find_iff (h : Shelf t base kept dir name) (low : j ≤ kept) :
    t.find (logPath base j) = .ok i ↔ slot t dir name j = some i := by
  have no_slash := logPath_no_slash h.no_slash j
  cases here : slot t dir name j with
  | none =>
    have missing := lookup_of_missing no_slash (h.spots j low) here
    constructor
    · intro found
      rw [FileTree.lookup, holds, found] at missing
      cases missing
    · intro found
      cases found
  | some x =>
    obtain ⟨content, there⟩ := h.leads j low x here
    rw [find_of_entry no_slash (h.spots j low) here there]
    simp

theorem wayMade_above (high : kept < n) : wayMade kept f n = f n := by
  cases kept with
  | zero => exact if_neg (by omega)
  | succ k => exact passDown_above high

theorem kept_of_wayMade (within : n ≤ kept) (h : f n = some x) :
    (∃ m ≤ kept, wayMade kept f m = some x) ∨ f kept = some x := by
  cases kept with
  | zero =>
    rw [Nat.le_zero.mp within] at h
    exact .inr h
  | succ k => exact kept_of_passDown within h

theorem reorders_wayMade (kept : Nat) (f : Nat → Option NodeId) :
    Reorders kept (wayMade kept f) f :=
  ⟨fun _ high => wayMade_above high, fun _ low _ found => source_of_wayMade low found⟩

theorem reorders_passOn (low : i < kept) (f : Nat → Option NodeId) :
    Reorders kept (passOn f i) f :=
  ⟨fun _ high => passOn_outside (by omega) (by omega),
    fun _ within _ found => source_of_passOn low within found⟩

theorem Renamed.elsewhere (change : Renamed dir₀ name₀ f t u)
    (only : Reorders kept f (slot t dir₀ name₀)) (d : NodeId) (m : Bytes) :
    (d = dir₀ ∧ ∃ i ≤ kept, m = logName name₀ i) ∨ u.entry? d m = t.entry? d m := by
  by_cases own : d = dir₀
  · subst own
    by_cases named : ∃ i, m = logName name₀ i
    · obtain ⟨i, rfl⟩ := named
      by_cases low : i ≤ kept
      · exact .inl ⟨rfl, i, low, rfl⟩
      · right
        have same := congrFun change.slots i
        rwa [only.above i (by omega)] at same
    · exact .inr (change.others m fun i same => named ⟨i, same⟩)
  · exact .inr (entry?_congr (change.relisted.node own))

theorem Renamed.led_before (change : Renamed dir₀ name₀ f t u)
    (only : Reorders kept f (slot t dir₀ name₀)) (here : slot u dir name j = some x) :
    (∃ k ≤ kept, slot t dir₀ name₀ k = some x) ∨ slot t dir name j = some x := by
  rcases change.elsewhere only dir (logName name j) with ⟨rfl, i, low, same⟩ | same
  · have moved : slot u dir name₀ i = some x := by
      rw [slot, ← same]
      exact here
    rw [change.slots] at moved
    exact .inl (only.sources i low x moved)
  · exact .inr (same.symm.trans here)

theorem Shelf.beside (h : Shelf t base kept dir name) (change : Renamed dir₀ name₀ f t u)
    (only : Reorders kept f (slot t dir₀ name₀)) (own : Shelf t base₀ kept dir₀ name₀) :
    Shelf u base kept dir name := by
  refine h.of_ways change.ways ?_ fun j low x here => ?_
  · by_cases same : dir = dir₀
    · obtain ⟨parent, es, es', before, after⟩ := change.relisted.isOpen
      exact ⟨parent, es', by rw [same, after]⟩
    · rw [change.relisted.node same]
      exact h.isOpen
  · rw [change.relisted.contents]
    rcases change.led_before only here with ⟨k, k_low, there⟩ | there
    · exact own.leads k k_low x there
    · exact h.leads j low x there

theorem Shelf.kept_beside (change : Renamed dir₀ name₀ (wayMade kept (slot t dir₀ name₀)) t u)
    (here : slot t dir name j = some x) :
    (∃ m ≤ kept, slot u dir₀ name₀ m = some x) ∨ slot t dir₀ name₀ kept = some x ∨
      slot u dir name j = some x := by
  rcases change.elsewhere (reorders_wayMade kept _) dir (logName name j) with
    ⟨rfl, i, low, same⟩ | same
  · have own : slot t dir name₀ i = some x := by
      rw [slot, ← same]
      exact here
    rw [change.slots]
    rcases kept_of_wayMade low own with still | last
    · exact .inl still
    · exact .inr (.inl last)
  · exact .inr (.inr (same.trans here))

theorem entry?_withFile_of_entry {parent : NodeId} {es : List (Bytes × NodeId)}
    (listed : t.node dir₀ = .dir parent es false) (here : t.entry? d m = some x) :
    FileTree.entry? (t.withFile dir₀ name₀) d m = some x := by
  by_cases own : d = dir₀
  · rw [own] at here ⊢
    rw [entry?_withFile listed, here, Option.some_or]
  · rw [entry?_withFile_ne listed own, here]

/-- A new file stands beside other logs. -/
theorem Shelf.beside_file (h : Shelf t base kept dir name) {parent : NodeId}
    {es : List (Bytes × NodeId)} (listed : t.node dir₀ = .dir parent es false) (name₀ : Bytes) :
    Shelf (t.withFile dir₀ name₀) base kept dir name := by
  have change := relisted_withFile listed name₀
  refine h.of_ways (ways_withFile listed) ?_ fun j low x here => ?_
  · obtain ⟨parent', es', own⟩ := h.isOpen
    by_cases same : dir = dir₀
    · obtain ⟨parent'', es₁, es₂, before, after⟩ := change.isOpen
      exact ⟨parent'', es₂, by rw [same, after]⟩
    · exact ⟨parent', es', ((change.node same).trans (node_push t dir)).trans own⟩
  · rw [contents?_withFile listed]
    split
    · exact ⟨[], rfl⟩
    · rename_i old
      refine h.leads j low x ?_
      by_cases same : dir = dir₀
      · subst same
        rw [slot, entry?_withFile listed, Option.or_eq_some_iff] at here
        rcases here with before | ⟨-, new⟩
        · exact before
        · split at new
          · exact absurd (Option.some.inj new).symm old
          · cases new
      · rw [slot, entry?_withFile_ne listed same] at here
        exact here

theorem Config.Stands.extended (h : c.Stands t) (there : t.contents? x = some content)
    (bytes : Bytes) : c.Stands (t.extended x bytes) := by
  intro base own
  obtain ⟨dir, name, shelf⟩ := h base own
  exact ⟨dir, name, shelf.extended there bytes⟩

theorem Config.Names.extended (h : c.Names t i) (stands : c.Stands t)
    (there : t.contents? x = some content) (bytes : Bytes) : c.Names (t.extended x bytes) i := by
  obtain ⟨base, own, j, low, found⟩ := h
  obtain ⟨dir, name, shelf⟩ := stands base own
  refine ⟨base, own, j, low, ((shelf.extended there bytes).find_iff low).mpr ?_⟩
  rw [slot_extended there]
  exact (shelf.find_iff low).mp found

theorem Config.Names.contents (h : c.Names t i) (stands : c.Stands t) :
    ∃ content, t.contents? i = some content := by
  obtain ⟨base, own, j, low, found⟩ := h
  obtain ⟨dir, name, shelf⟩ := stands base own
  exact shelf.leads j low i ((shelf.find_iff low).mp found)

theorem Config.Stands.turned (h : c.Stands t) (own : base ∈ c.bases) :
    c.Stands (Writer.makeWay base c.maxRotatedFiles t) ∧
      ∀ i, c.Names t i → c.Names (Writer.makeWay base c.maxRotatedFiles t) i ∨
        t.find (logPath base c.maxRotatedFiles) = .ok i := by
  obtain ⟨dir₀, name₀, shelf₀⟩ := h base own
  obtain ⟨change, after₀⟩ := shelf₀.makeWay
  refine ⟨fun base' own' => ?_, ?_⟩
  · obtain ⟨dir, name, shelf⟩ := h base' own'
    exact ⟨dir, name, shelf.beside change (reorders_wayMade _ _) shelf₀⟩
  · rintro i ⟨base', own', j, low, found⟩
    obtain ⟨dir, name, shelf⟩ := h base' own'
    rcases Shelf.kept_beside change ((shelf.find_iff low).mp found) with
      ⟨m, m_low, there⟩ | last | still
    · exact .inl ⟨base, own, m, m_low, (after₀.find_iff m_low).mpr there⟩
    · exact .inr ((shelf₀.find_iff (Nat.le_refl _)).mpr last)
    · exact .inl ⟨base', own', j, low, ((shelf.beside change (reorders_wayMade _ _) shelf₀).find_iff low).mpr still⟩

theorem Config.Stands.opens (h : c.Stands s.tree) (own : base ∈ c.bases) :
    ∃ u x size, openAppend s base = ({ s with tree := u }, some (x, size)) ∧ c.Stands u ∧
      c.Names u x ∧ ∀ i, c.Names s.tree i → c.Names u i := by
  obtain ⟨dir₀, name₀, shelf₀⟩ := h base own
  cases here : slot s.tree dir₀ name₀ 0 with
  | some x =>
    obtain ⟨content, there⟩ := shelf₀.leads 0 (Nat.zero_le _) x here
    exact ⟨s.tree, x, _, openAppend_of_entry shelf₀ here there, h,
      ⟨base, own, 0, Nat.zero_le _, (shelf₀.find_iff (Nat.zero_le _)).mpr here⟩, fun _ => id⟩
  | none =>
    obtain ⟨parent, es, listed⟩ := shelf₀.isOpen
    obtain ⟨after₀, slots⟩ := shelf₀.withFile here
    refine ⟨_, _, _, openAppend_of_missing shelf₀ here, fun base' own' => ?_,
      ⟨base, own, 0, Nat.zero_le _,
        (after₀.find_iff (Nat.zero_le _)).mpr (by rw [slots, if_pos rfl])⟩,
      ?_⟩
    · obtain ⟨dir, name, shelf⟩ := h base' own'
      exact ⟨dir, name, shelf.beside_file listed name₀⟩
    · rintro i ⟨base', own', j, low, found⟩
      obtain ⟨dir, name, shelf⟩ := h base' own'
      refine ⟨base', own', j, low, ((shelf.beside_file listed name₀).find_iff low).mpr ?_⟩
      exact entry?_withFile_of_entry listed ((shelf.find_iff low).mp found)

structure Desk.Placed (c : Config) (d : Desk) : Prop where
  stands : c.Stands d.scene.tree
  named : ∀ k, d.sink = some k → c.Names d.scene.tree k.file

namespace Desk

theorem Placed.append {k : Sink} {bytes : Bytes} (placed : Placed c a) (here : a.sink = some k)
    (written : a.scene.tree.append k.file bytes = .ok u) :
    c.Stands u ∧ ∀ i, c.Names a.scene.tree i → c.Names u i := by
  obtain ⟨content, there⟩ := (placed.named k here).contents placed.stands
  cases (append_of_contents there bytes).symm.trans written
  exact ⟨placed.stands.extended there bytes, fun i h => h.extended placed.stands there bytes⟩

theorem Step.places (h : Step c a e b) (placed : Placed c a) :
    Placed c b ∧ ∀ i, c.Names a.scene.tree i → c.Names b.scene.tree i ∨ e.Drops c i := by
  cases h with
  | @took _ k _ _ _ =>
    refine ⟨⟨placed.stands, fun l here => ?_⟩, fun i => .inl⟩
    cases here
    exact placed.named k rfl
  | @wrote _ k _ done =>
    obtain ⟨appended, -, file, -, -⟩ := Sink.flush_done done
    obtain ⟨stands, names⟩ := placed.append rfl appended
    refine ⟨⟨stands, fun l here => ?_⟩, fun i h => .inl (names i h)⟩
    cases here
    rw [file]
    exact names _ (placed.named k rfl)
  | @passed _ k _ _ _ done =>
    obtain ⟨appended, -, -⟩ := Sink.write_done done
    obtain ⟨stands, names⟩ := placed.append rfl appended
    refine ⟨⟨stands, fun l here => ?_⟩, fun i h => .inl (names i h)⟩
    cases here
    exact names _ (placed.named k rfl)
  | refused _ | noticed _ => exact ⟨⟨placed.stands, placed.named⟩, fun i => .inl⟩
  | closed _ | gaveUp _ | showed _ =>
    exact ⟨⟨placed.stands, fun l here => by cases here⟩, fun i => .inl⟩
  | @opened s _ _ _ _ _ own opens =>
    obtain ⟨u, x, size, opens', stands, named, names⟩ :=
      Config.Stands.opens (s := s) placed.stands own
    cases opens'.symm.trans opens
    refine ⟨⟨stands, fun l here => ?_⟩, fun i h => .inl (names i h)⟩
    cases here
    exact named
  | @missed s _ _ _ own fails =>
    obtain ⟨u, x, size, opens, -⟩ := Config.Stands.opens (s := s) placed.stands own
    cases opens.symm.trans fails
  | turned own =>
    obtain ⟨stands, names⟩ := placed.stands.turned own
    refine ⟨⟨stands, fun l here => by cases here⟩, fun i h => (names i h).imp_right fun last => ?_⟩
    exact ⟨_, _, rfl, last⟩

theorem Step.keeps (h : Step c a e b) (placed : Placed c a)
    (named : c.Names a.scene.tree i ∨ ∃ e ∈ es, e.Drops c i) :
    c.Names b.scene.tree i ∨ ∃ d ∈ es ++ [e], d.Drops c i := by
  rcases named with still | ⟨d, member, drops⟩
  · refine ((h.places placed).2 i still).imp_right fun drops => ?_
    exact ⟨e, List.mem_append_right _ (List.mem_singleton_self _), drops⟩
  · exact .inr ⟨d, List.mem_append_left _ member, drops⟩

theorem Course.places (h : Course c a es b) (placed : Placed c a) : Placed c b := by
  induction h with
  | refl => exact placed
  | step _ last ih => exact (last.places ih).1

theorem Step.sink_of_told {line : Bytes} (h : Step c a e b) (told : (line, .file i) ∈ e.told) :
    ∃ k, a.sink = some k ∧ k.file = i := by
  cases h with
  | wrote _ =>
    obtain ⟨_, _, same⟩ := List.mem_map.mp told
    cases same
    exact ⟨_, rfl, rfl⟩
  | passed _ _ =>
    cases List.mem_singleton.mp told
    exact ⟨_, rfl, rfl⟩
  | gaveUp _ =>
    obtain ⟨_, _, same⟩ := List.mem_map.mp told
    cases same
  | showed _ => cases List.mem_singleton.mp told
  | took | refused | closed | opened | missed | turned | noticed => cases told

theorem Course.names_of_told {line : Bytes} (h : Course c a es b) (placed : Placed c a)
    (told : (line, .file i) ∈ es.flatMap Deed.told) :
    c.Names b.scene.tree i ∨ ∃ e ∈ es, e.Drops c i := by
  induction h with
  | refl => cases told
  | step before last ih =>
    have between := before.places placed
    rw [List.flatMap_append, List.mem_append, List.flatMap_singleton] at told
    rcases told with earlier | now
    · exact last.keeps between (ih earlier)
    · obtain ⟨k, here, rfl⟩ := last.sink_of_told now
      exact last.keeps between (.inl (between.named k here))

end Desk

end

end MountProbe.Journal
