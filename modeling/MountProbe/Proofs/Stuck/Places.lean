import Mathlib.Data.Finset.Card
import MountProbe.Proofs.Path.Order
import MountProbe.Proofs.Stuck.OneCall
import MountProbe.Stuck.Request

/-! The registry as a set of places. A place is the components that all paths to it have; which of
the paths is used for a request makes no difference to the answer, nor to the places that are held
afterwards. The entry for a place is the one that was made when the place was last not held. -/
namespace MountProbe.Stuck

abbrev Place := List Path.Component

variable {α : Type} {r : Registry} {s : Finset Place} {now : Nat} {p q : Path} {place : Place}

/-- What a request does to the registry. -/
inductive Effect where
  | none
  | marks
  | clears

def Request.effect : Request α → Effect
  | .isStuck => .none
  | .mark => .marks
  | .clear => .clears
  | .markUnless ended => if ended then .none else .marks
  | .clearAfter _ => .clears

namespace Effect

def on (now : Nat) (p : Path) (r : Registry) : Effect → Registry
  | none => r
  | marks => r.mark now p
  | clears => r.clear p

/-- The places that are held afterwards. -/
def change (place : Place) (s : Finset Place) : Effect → Finset Place
  | none => s
  | marks => insert place s
  | clears => s.erase place

/-- The entry for a place afterwards: a mark leaves the one that is there. -/
def leaves (now : Nat) (p : Path) (place : Place) (held : Option Entry) : Effect → Option Entry
  | none => held
  | marks => if p.components = place then held.or (some ⟨p, now⟩) else held
  | clears => if p.components = place then Option.none else held

end Effect

namespace Registry

/-- The entry for a place. -/
def at? (r : Registry) (place : Place) : Option Entry :=
  r.entries.find? fun e => e.path.components = place

def places (r : Registry) : Finset Place :=
  (r.entries.map fun e => e.path.components).toFinset

theorem entry?_eq (p : Path) : r.entry? p = r.at? p.components :=
  rfl

theorem mem_places : place ∈ r.places ↔ (r.at? place).isSome = true := by
  simp only [places, at?, List.mem_toFinset, List.mem_map, List.find?_isSome, decide_eq_true_eq]

theorem isStuck_iff (p : Path) : r.isStuck p = true ↔ p.components ∈ r.places := by
  simp only [isStuck, places, List.mem_toFinset, List.mem_map, List.any_eq_true, Path.same_iff]

theorem at?_cons (e : Entry) (entries : List Entry) (place : Place) :
    at? ⟨e :: entries⟩ place =
      if e.path.components = place then some e else at? ⟨entries⟩ place := by
  unfold at?
  split
  · rename_i here
    exact List.find?_cons_of_pos (decide_eq_true here)
  · rename_i elsewhere
    exact List.find?_cons_of_neg (by simp [elsewhere])

theorem at?_mark (r : Registry) (now : Nat) (p : Path) (place : Place) :
    (r.mark now p).at? place =
      if p.components = place then (r.at? place).or (some ⟨p, now⟩) else r.at? place := by
  unfold mark
  split
  · rename_i stuck
    split
    · rename_i here
      have held := mem_places.mp ((isStuck_iff p).mp stuck)
      obtain ⟨e, there⟩ := Option.isSome_iff_exists.mp (here ▸ held)
      rw [there]
      rfl
    · rfl
  · rename_i free
    rw [at?_cons]
    split
    · rename_i here
      have nothing : r.at? place = none := by
        rw [isStuck_iff, here, mem_places, Option.not_isSome_iff_eq_none] at free
        exact free
      rw [nothing]
      rfl
    · rfl

theorem at?_clear (r : Registry) (p : Path) (place : Place) :
    (r.clear p).at? place = if p.components = place then none else r.at? place := by
  unfold clear at?
  rw [List.find?_filter]
  split
  · rename_i here
    simp [Path.same, here]
  · rename_i elsewhere
    congr 1
    funext e
    by_cases there : e.path.components = place
    · simp [Path.same, there, Ne.symm elsewhere]
    · simp [there]

theorem answer_registry (request : Request α) :
    (r.answer now p request).1 = request.effect.on now p r := by
  cases request with
  | markUnless ended => cases ended <;> rfl
  | _ => rfl

theorem at?_on (effect : Effect) (place : Place) :
    (effect.on now p r).at? place = effect.leaves now p place (r.at? place) := by
  cases effect with
  | none => rfl
  | marks => exact at?_mark r now p place
  | clears => exact at?_clear r p place

theorem places_on (effect : Effect) :
    (effect.on now p r).places = effect.change p.components r.places := by
  ext place
  rw [mem_places, at?_on]
  cases effect with
  | none => exact mem_places.symm
  | marks =>
    simp only [Effect.leaves, Effect.change, Finset.mem_insert, mem_places]
    split
    · rename_i here
      simp [here]
    · rename_i elsewhere
      simp [Ne.symm elsewhere]
  | clears =>
    simp only [Effect.leaves, Effect.change, Finset.mem_erase, mem_places]
    split
    · rename_i here
      simp [here]
    · rename_i elsewhere
      simp [Ne.symm elsewhere]

def Tidy (r : Registry) : Prop :=
  Path.Apart (r.entries.map (·.path))

theorem tidy_on (tidy : r.Tidy) (effect : Effect) : (effect.on now p r).Tidy := by
  cases effect with
  | none => exact tidy
  | marks => exact mark_apart tidy now p
  | clears => exact clear_apart tidy p

theorem size_eq_card (tidy : r.Tidy) : r.size = r.places.card := by
  have nodup := tidy.nodup
  rw [List.map_map] at nodup
  exact ((List.toFinset_card_of_nodup nodup).trans (List.length_map _)).symm

theorem isEmpty_iff : r.isEmpty = true ↔ r.places = ∅ := by
  simp only [isEmpty, places, List.isEmpty_iff, List.toFinset_eq_empty_iff, List.map_eq_nil_iff]

theorem sorted_perm (r : Registry) : r.sorted.Perm r.entries :=
  List.mergeSort_perm _ _

theorem stuckMounts_increasing (tidy : r.Tidy) (now : Nat) :
    (r.stuckMounts now).Pairwise fun m n =>
      m.mountPoint.compareByComponents n.mountPoint = .lt := by
  have upwards : r.sorted.Pairwise fun d e => Path.upTo (·.path) d e = true :=
    Path.sorted_mergeSort _ _
  have apart : r.sorted.Pairwise fun d e => ¬ d.path.same e.path = true :=
    List.pairwise_map.mp (tidy.perm ((sorted_perm r).map _).symm)
  refine List.pairwise_map.mpr ((upwards.and apart).imp ?_)
  rintro d e ⟨before, other⟩
  rw [← Path.compareByComponents_eq_iff] at other
  cases order : d.path.compareByComponents e.path with
  | lt => rfl
  | eq => exact absurd order other
  | gt => simp [Path.upTo, order] at before

theorem at?_eq_some {e : Entry} (tidy : r.Tidy) :
    r.at? place = some e ↔ e ∈ r.entries ∧ e.path.components = place := by
  have sound : ∀ d, r.at? place = some d → d ∈ r.entries ∧ d.path.components = place := by
    intro d found
    exact ⟨List.mem_of_find?_eq_some found, by simpa using List.find?_some found⟩
  constructor
  · exact sound e
  · rintro ⟨member, here⟩
    have held : (r.at? place).isSome = true := by
      simp only [at?, List.find?_isSome, decide_eq_true_eq]
      exact ⟨e, member, here⟩
    obtain ⟨d, found⟩ := Option.isSome_iff_exists.mp held
    obtain ⟨member', here'⟩ := sound d found
    have equal := tidy.eq_of_same member' member (Path.same_iff.mpr (here'.trans here.symm))
    exact equal ▸ found

theorem mem_stuckMounts {m : StuckMount} (tidy : r.Tidy) : m ∈ r.stuckMounts now ↔
    ∃ e, r.at? m.mountPoint.components = some e ∧
      m = { mountPoint := e.path, stuckFor := now - e.since } := by
  simp only [stuckMounts, List.mem_map, (sorted_perm r).mem_iff, at?_eq_some tidy]
  constructor
  · rintro ⟨e, member, rfl⟩
    exact ⟨e, ⟨member, rfl⟩, rfl⟩
  · rintro ⟨e, ⟨member, -⟩, listed⟩
    exact ⟨e, member, listed.symm⟩

theorem places_of_same (effect : Effect) (same : p.same q = true) :
    (effect.on now p r).places = (effect.on now q r).places := by
  rw [places_on, places_on, Path.same_iff.mp same]

theorem stuckFor_isSome : (r.stuckFor now p).isSome = true ↔ p.components ∈ r.places := by
  rw [stuckFor, entry?_eq, Option.isSome_map, mem_places]

theorem answer_of_same (request : Request α) (same : p.same q = true) :
    (r.answer now p request).2 = (r.answer now q request).2 := by
  have stuck : r.isStuck p = r.isStuck q := by
    rw [Bool.eq_iff_iff, isStuck_iff, isStuck_iff, Path.same_iff.mp same]
  have stuckFor : r.stuckFor now p = r.stuckFor now q := by
    rw [Registry.stuckFor, Registry.stuckFor, entry?_eq, entry?_eq, Path.same_iff.mp same]
  cases request with
  | isStuck => exact congrArg Answer.told stuck
  | mark => exact congrArg (fun b => Answer.told (!b)) stuck
  | clear => exact congrArg Answer.cleared stuckFor
  | markUnless ended => cases ended <;> rfl
  | clearAfter a => exact congrArg (Answer.published a) stuckFor

end Registry

theorem marks_changes : Effect.marks.change place s ≠ s ↔ place ∉ s :=
  Finset.insert_eq_self.not

theorem clears_changes : Effect.clears.change place s ≠ s ↔ place ∈ s :=
  Finset.erase_eq_self.not.trans Classical.not_not

/-- The registry holds just these places, and lists them in their order. -/
structure HoldsPlaces (r : Registry) (s : Finset Place) : Prop where
  isStuck : ∀ p, r.isStuck p = true ↔ p.components ∈ s
  size : r.size = s.card
  isEmpty : r.isEmpty = true ↔ s = ∅
  listed : ∀ now place, (∃ m ∈ r.stuckMounts now, m.mountPoint.components = place) ↔ place ∈ s
  increasing : ∀ now, (r.stuckMounts now).Pairwise fun m n =>
    m.mountPoint.compareByComponents n.mountPoint = .lt

/-- What a request about a path says: whether the path's place is held, whether that has changed, or
whether the call on it has ended. -/
structure TellsPlaces (α : Type) (r : Registry) (s : Finset Place) (now : Nat) (p : Path) :
    Prop where
  isStuck : (r.answer now p (.isStuck : Request α)).2 = .told (decide (p.components ∈ s))
  mark : (r.answer now p (.mark : Request α)).2 =
    .told (decide (Effect.marks.change p.components s ≠ s))
  clear : (r.answer now p (.clear : Request α)).2 = .cleared (r.stuckFor now p)
  markUnless : ∀ ended, (r.answer now p (.markUnless ended : Request α)).2 = .told (!ended)
  clearAfter : ∀ a : α, (r.answer now p (.clearAfter a)).2 = .published a (r.stuckFor now p)
  stuckFor : (r.stuckFor now p).isSome = true ↔ Effect.clears.change p.components s ≠ s
  /-- What is held already stays as it is. -/
  again : p.components ∈ s → (r.answer now p (.mark : Request α)).1 = r ∧
    ∀ ended, (r.answer now p (.markUnless ended : Request α)).1 = r
  /-- Another path to the place is as good. -/
  same : ∀ q (request : Request α), p.same q = true →
    (r.answer now p request).2 = (r.answer now q request).2 ∧
      (r.answer now p request).1.places = (r.answer now q request).1.places

theorem holdsPlaces (tidy : r.Tidy) : HoldsPlaces r r.places := by
  constructor
  · exact Registry.isStuck_iff
  · exact Registry.size_eq_card tidy
  · exact Registry.isEmpty_iff
  · intro now place
    simp only [Registry.mem_places, Registry.mem_stuckMounts tidy]
    constructor
    · rintro ⟨m, ⟨e, held, -⟩, rfl⟩
      exact Option.isSome_iff_exists.mpr ⟨e, held⟩
    · intro held
      obtain ⟨e, held⟩ := Option.isSome_iff_exists.mp held
      have here := ((Registry.at?_eq_some tidy).mp held).2
      exact ⟨{ mountPoint := e.path, stuckFor := now - e.since }, ⟨e, here ▸ held, rfl⟩, here⟩
  · exact Registry.stuckMounts_increasing tidy

theorem tellsPlaces (r : Registry) (now : Nat) (p : Path) : TellsPlaces α r r.places now p := by
  have stuck : r.isStuck p = decide (p.components ∈ r.places) := by
    rw [Bool.eq_iff_iff, Registry.isStuck_iff, decide_eq_true_eq]
  constructor
  · exact congrArg Answer.told stuck
  · simp only [marks_changes, decide_not, ← stuck]
    rfl
  · rfl
  · intro ended
    cases ended <;> rfl
  · exact fun a => rfl
  · exact Registry.stuckFor_isSome.trans clears_changes.symm
  · intro held
    have kept : r.mark now p = r := if_pos ((Registry.isStuck_iff p).mpr held)
    refine ⟨kept, ?_⟩
    intro ended
    cases ended with
    | true => rfl
    | false => exact kept
  · intro q request same
    rw [Registry.answer_registry, Registry.answer_registry]
    exact ⟨Registry.answer_of_same request same, Registry.places_of_same _ same⟩

/-- A request about a path, and when it is made. -/
structure Asked (α : Type) where
  now : Nat
  path : Path
  request : Request α

def Registry.afterAll (r : Registry) (asked : List (Asked α)) : Registry :=
  asked.foldl (fun r a => (r.answer a.now a.path a.request).1) r

/-- The places that a set of them becomes. -/
def placesAfter (s : Finset Place) (asked : List (Asked α)) : Finset Place :=
  asked.foldl (fun s a => a.request.effect.change a.path.components s) s

/-- The entry that there is for a place in the end. -/
def entryAfter (place : Place) (held : Option Entry) (asked : List (Asked α)) : Option Entry :=
  asked.foldl (fun held a => a.request.effect.leaves a.now a.path place held) held

theorem afterAll_cons (r : Registry) (a : Asked α) (asked : List (Asked α)) :
    r.afterAll (a :: asked) = (a.request.effect.on a.now a.path r).afterAll asked := by
  rw [← Registry.answer_registry]
  rfl

theorem places_afterAll (r : Registry) (asked : List (Asked α)) :
    (r.afterAll asked).places = placesAfter r.places asked := by
  induction asked generalizing r with
  | nil => rfl
  | cons a asked ih =>
    rw [afterAll_cons, ih, Registry.places_on]
    rfl

theorem at?_afterAll (r : Registry) (asked : List (Asked α)) (place : Place) :
    (r.afterAll asked).at? place = entryAfter place (r.at? place) asked := by
  induction asked generalizing r with
  | nil => rfl
  | cons a asked ih =>
    rw [afterAll_cons, ih, Registry.at?_on]
    rfl

theorem tidy_afterAll (tidy : r.Tidy) (asked : List (Asked α)) : (r.afterAll asked).Tidy := by
  induction asked generalizing r with
  | nil => exact tidy
  | cons a asked ih =>
    rw [afterAll_cons]
    exact ih (Registry.tidy_on tidy _)

/-- Whatever is asked of a registry, it holds the places that a set would, tells of them what has
changed, and keeps for each the entry of the mark that put it there. -/
theorem registry_acts_as_set (asked : List (Asked α)) :
    HoldsPlaces (Registry.empty.afterAll asked) (placesAfter ∅ asked) ∧
    (∀ now p, TellsPlaces α (Registry.empty.afterAll asked) (placesAfter ∅ asked) now p) ∧
    (∀ place, (Registry.empty.afterAll asked).at? place = entryAfter place none asked) ∧
    ∀ now (m : StuckMount), m ∈ (Registry.empty.afterAll asked).stuckMounts now ↔
      ∃ e, entryAfter m.mountPoint.components none asked = some e ∧
        m = { mountPoint := e.path, stuckFor := now - e.since } := by
  have places : (Registry.empty.afterAll asked).places = placesAfter ∅ asked :=
    places_afterAll .empty asked
  have entries : ∀ place, (Registry.empty.afterAll asked).at? place = entryAfter place none asked :=
    at?_afterAll .empty asked
  have empty_tidy : Registry.empty.Tidy := List.Pairwise.nil
  have tidy := tidy_afterAll empty_tidy asked
  rw [← places]
  refine ⟨holdsPlaces tidy, fun now p => tellsPlaces _ now p, entries, ?_⟩
  intro now m
  rw [Registry.mem_stuckMounts tidy, entries]

example : ["/a/", "//a", "/a/.", "/a"].map (fun s => (Path.ofString s).components) =
    List.replicate 4 [.root, .name [97]] := by
  decide

end MountProbe.Stuck
