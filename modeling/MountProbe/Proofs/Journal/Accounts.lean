import MountProbe.Proofs.FileTree.Quiet
import MountProbe.Proofs.Journal.Course
import MountProbe.Proofs.Journal.Shelf

namespace MountProbe.Journal

open FileTree

inductive Fate where
  | file (i : NodeId)
  | shown
  | lost
deriving DecidableEq

/-- What becomes of the lines that a step is about. -/
def Deed.told : Deed → List (Bytes × Fate)
  | wrote i lines => lines.map fun line => (line, .file i)
  | passed i line => [(line, .file i)]
  | gaveUp lines => lines.map fun line => (line, .lost)
  | showed line => [(line, .shown)]
  | _ => []

/-- What is said on the error output. -/
def Deed.spoken : Deed → String
  | noticed text => text
  | showed line => "[MG-JSONL] " ++ line.lossy
  | _ => ""

def linesWith (f : Fate) (told : List (Bytes × Fate)) : List Bytes :=
  (told.filter fun x => x.2 = f).map Prod.fst

def Desk.waiting (d : Desk) : List Bytes :=
  match d.sink with
  | some k => k.waiting.reverse
  | none => []

structure Desk.Sound (d : Desk) : Prop where
  tree : d.scene.tree.Sound
  sink : ∀ k, d.sink = some k → k.file < d.scene.tree.nodes.size

section

variable {c : Config} {a b : Desk} {es : List Deed} {e : Deed} {s s' : Scene} {t : FileTree}
  {p base : Path} {i : NodeId} {lines : List Bytes} {f g : Fate}

theorem linesWith_append (xs ys : List (Bytes × Fate)) :
    linesWith f (xs ++ ys) = linesWith f xs ++ linesWith f ys := by
  rw [linesWith, List.filter_append, List.map_append]
  rfl

theorem linesWith_same (lines : List Bytes) :
    linesWith f (lines.map fun line => (line, f)) = lines := by
  simp [linesWith, List.filter_map, Function.comp_def]

theorem linesWith_other (other : g ≠ f) (lines : List Bytes) :
    linesWith f (lines.map fun line => (line, g)) = [] := by
  simp [linesWith, List.filter_map, Function.comp_def, other]

theorem linesWith_file (lines : List Bytes) (i j : NodeId) :
    linesWith (.file i) (lines.map fun line => (line, .file j)) = if i = j then lines else [] := by
  split
  · rename_i same
    rw [same, linesWith_same]
  · rename_i other
    exact linesWith_other (fun same => other (Fate.file.inj same).symm) lines

theorem quiet_shift (base : Path) (n : Nat) (sound : t.Sound) :
    Quiet t (Writer.shift base n t) := by
  induction n generalizing t with
  | zero => exact .refl t
  | succ n ih =>
    rw [Writer.shift]
    split
    · rename_i u renamed
      have moves := quiet_rename sound renamed
      exact moves.trans (ih (moves.sound sound))
    · exact ih sound

theorem quiet_makeWay (base : Path) (kept : Nat) (sound : t.Sound) :
    Quiet t (Writer.makeWay base kept t) := by
  have shifts := quiet_shift base (kept - 1) sound
  unfold Writer.makeWay
  dsimp only
  split
  · rename_i u done
    split at done
    · exact shifts.trans (quiet_remove done)
    · exact shifts.trans (quiet_rename (shifts.sound sound) done)
  · exact shifts

theorem quiet_parentsMade (t : FileTree) (p : Path) : Quiet t (parentsMade t p).1 := by
  unfold parentsMade
  split
  · exact .refl t
  · exact quiet_makeDirs _ _ _

theorem quiet_openAppend {opened : Option (NodeId × Nat)} (sound : s.tree.Sound)
    (opens : openAppend s p = (s', opened)) :
    Quiet s.tree s'.tree ∧ s'.errors = s.errors ∧
      ∀ i size, opened = some (i, size) → i < s'.tree.nodes.size := by
  have above := quiet_parentsMade s.tree p
  rw [openAppend_eq] at opens
  split at opens
  · rename_i t fault made
    cases opens
    rw [made] at above
    exact ⟨above, rfl, by simp⟩
  · rename_i t made
    rw [made] at above
    split at opens
    · cases opens
      exact ⟨above, rfl, by simp⟩
    · rename_i u j found
      cases opens
      obtain ⟨quiet, there⟩ := quiet_openFile (above.sound sound) found
      refine ⟨above.trans quiet, rfl, ?_⟩
      rintro i size ⟨⟩
      exact there

namespace Desk

theorem Step.order (h : Step c a e b) :
    a.waiting ++ e.given = e.told.map Prod.fst ++ b.waiting := by
  cases h with
  | took _ => simp [waiting, Deed.given, Deed.told, Sink.hold]
  | wrote done =>
    simp [waiting, Deed.given, Deed.told, (Sink.flush_done done).2.2.2.1, Function.comp_def]
  | passed nothing _ => simp [waiting, Deed.given, Deed.told, nothing]
  | refused _ => simp [waiting, Deed.given, Deed.told]
  | closed nothing => simp [waiting, Deed.given, Deed.told, nothing]
  | gaveUp _ => simp [waiting, Deed.given, Deed.told, Function.comp_def]
  | opened _ _ | missed _ _ | turned _ | noticed _ | showed _ =>
    simp [waiting, Deed.given, Deed.told]

theorem Course.order (h : Course c a es b) :
    a.waiting ++ es.flatMap Deed.given = (es.flatMap Deed.told).map Prod.fst ++ b.waiting := by
  induction h with
  | refl => simp
  | step _ last ih =>
    rw [List.flatMap_append, ← List.append_assoc, ih, List.append_assoc, List.flatMap_singleton,
      last.order]
    simp

theorem Step.spoken (h : Step c a e b) (sound : a.Sound) :
    b.scene.errors = a.scene.errors ++ e.spoken := by
  have silent : ∀ x : String, x = x ++ "" := fun x => String.append_empty.symm
  cases h with
  | wrote done => exact (Sink.flush_done done).2.1.trans (silent _)
  | passed _ done => exact (Sink.write_done done).2.1.trans (silent _)
  | opened _ opens => exact (quiet_openAppend sound.tree opens).2.1.trans (silent _)
  | missed _ fails => exact (quiet_openAppend sound.tree fails).2.1.trans (silent _)
  | noticed _ | showed _ => rfl
  | took | refused | closed | gaveUp | turned => exact silent _

/-- A step leaves the texts of all files, but for the lines that it writes to one. -/
theorem Step.text (h : Step c a e b) (sound : a.Sound) :
    b.Sound ∧ ∀ i, b.scene.tree.text i =
      a.scene.tree.text i ++ (linesWith (.file i) e.told).flatten := by
  have unwritten : ∀ {t u : FileTree}, Quiet t u → ∀ i, u.text i = t.text i ++ ([] : Bytes) :=
    fun quiet i => (quiet.text i).trans (List.append_nil _).symm
  cases h with
  | @took _ k _ _ _ =>
    refine ⟨⟨sound.tree, fun l here => ?_⟩, unwritten (.refl _)⟩
    cases here
    exact sound.sink k rfl
  | wrote done =>
    obtain ⟨appended, -, file, -, -⟩ := Sink.flush_done done
    obtain ⟨texts, size, still⟩ := text_append (sound.sink _ rfl) appended
    refine ⟨⟨still sound.tree, fun k here => ?_⟩, fun i => ?_⟩
    · cases here
      rw [file, size]
      exact sound.sink _ rfl
    · rw [texts, Deed.told, linesWith_file]
      split <;> rfl
  | @passed _ k _ line _ done =>
    obtain ⟨appended, -, -⟩ := Sink.write_done done
    obtain ⟨texts, size, still⟩ := text_append (sound.sink _ rfl) appended
    refine ⟨⟨still sound.tree, fun l here => ?_⟩, fun i => ?_⟩
    · cases here
      rw [size]
      exact sound.sink _ rfl
    · have own := linesWith_file [line] i k.file
      rw [texts, Deed.told, show linesWith (.file i) [(line, .file k.file)] = _ from own]
      split
      · rw [List.flatten_singleton]
      · rfl
  | refused _ | noticed _ => exact ⟨⟨sound.tree, sound.sink⟩, unwritten (.refl _)⟩
  | closed _ => exact ⟨⟨sound.tree, fun k here => by cases here⟩, unwritten (.refl _)⟩
  | gaveUp _ =>
    refine ⟨⟨sound.tree, fun k here => by cases here⟩, fun i => ?_⟩
    rw [Deed.told, linesWith_other (by simp)]
    exact unwritten (.refl _) i
  | showed _ => exact ⟨⟨sound.tree, fun k here => by cases here⟩, unwritten (.refl _)⟩
  | opened _ opens =>
    obtain ⟨quiet, -, there⟩ := quiet_openAppend sound.tree opens
    exact ⟨⟨quiet.sound sound.tree, fun k here => by cases here; exact there _ _ rfl⟩,
      unwritten quiet⟩
  | missed _ fails =>
    obtain ⟨quiet, -, -⟩ := quiet_openAppend sound.tree fails
    exact ⟨⟨quiet.sound sound.tree, fun k here => by cases here⟩, unwritten quiet⟩
  | @turned _ _ base _ =>
    have quiet := quiet_makeWay base c.maxRotatedFiles sound.tree
    exact ⟨⟨quiet.sound sound.tree, fun k here => by cases here⟩, unwritten quiet⟩

theorem Course.text (h : Course c a es b) (sound : a.Sound) :
    b.Sound ∧ ∀ i, b.scene.tree.text i =
      a.scene.tree.text i ++ (linesWith (.file i) (es.flatMap Deed.told)).flatten := by
  induction h with
  | refl => exact ⟨sound, fun i => (List.append_nil _).symm⟩
  | step _ last ih =>
    obtain ⟨sound_between, before⟩ := ih
    obtain ⟨sound_after, after⟩ := last.text sound_between
    refine ⟨sound_after, fun i => ?_⟩
    rw [after, before, List.flatMap_append, List.flatMap_singleton, linesWith_append,
      List.flatten_append, List.append_assoc]

theorem Course.spoken (h : Course c a es b) (sound : a.Sound) :
    b.scene.errors = a.scene.errors ++ String.join (es.map Deed.spoken) := by
  induction h with
  | refl => exact String.append_empty.symm
  | step before last ih =>
    rw [last.spoken (before.text sound).1, ih, List.map_append, String.join_append,
      String.append_assoc]
    simp [String.join]

end Desk

end

end MountProbe.Journal
