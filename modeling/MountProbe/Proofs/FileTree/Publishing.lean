import MountProbe.Proofs.FileTree.Agreeing
import MountProbe.Proofs.FileTree.Beside
import MountProbe.Proofs.FileTree.Files
import MountProbe.Proofs.FileTree.Held
import MountProbe.Proofs.FileTree.Quiet

/-! What becomes of a file when a text is published in it. Either the file holds the new text, or it
holds what it held before. -/
namespace MountProbe.Textfile

open FileTree (Kept Spares Routes ending)

/-- The directories above a file, as far as they can be made. -/
def ground (t : FileTree) (p : Path) : FileTree × Except IoFault Unit :=
  match p.parent? with
  | none => (t, .ok ())
  | some above => t.makeAll above

/-- No symbolic link stands beside the path. -/
def NoLink (p : Path) (t : FileTree) : Prop :=
  ∀ d n i target, t.spotOf (temporary p) = .ok (.entry d n) → t.entry? d n = some i →
    t.node i ≠ .link target

/-- Where a file stands or is to stand, and that no link is in the way beside it. -/
structure Place (p : Path) (d : NodeId) (n : Bytes) (t : FileTree) : Prop where
  named : p.raw.getLast? ≠ some Path.slash
  spot : t.spotOf p = .ok (.entry d n)
  sound : t.Sound
  no_link : NoLink p t

/-- What there is at the name of the file beside. -/
inductive AtBeside (p : Path) (t : FileTree) : Prop where
  | nothing : (∀ u i, t.openFile (temporary p) ≠ .ok (u, i)) →
    (∃ fault, t.remove (temporary p) = .error fault) →
    (∀ b, t.lookup (temporary p) ≠ some (.ok b)) → AtBeside p t
  | missing {e : NodeId} {m : Bytes} {parent : NodeId} {es : List (Bytes × NodeId)} :
    t.spotOf (temporary p) = .ok (.entry e m) → t.entry? e m = none →
    t.node e = .dir parent es false → AtBeside p t
  | there {e : NodeId} {m : Bytes} {i : NodeId} : t.spotOf (temporary p) = .ok (.entry e m) →
    t.entry? e m = some i → (∃ c, t.contents? i = some c) ∨ t.node i = .full → AtBeside p t

/-- How the contents of the file at an entry are replaced, from the directory on. -/
inductive Replaced (d : NodeId) (n c : Bytes) (t : FileTree) :
    FileTree → Except Failure Unit → Prop where
  | untouched (f : Failure) : Replaced d n c t t (.error f)
  /-- There is a device in the way, which is taken away. -/
  | device {i : NodeId} (f : Failure) : t.entry? d (n ++ ending) = some i → t.node i = .full →
    Replaced d n c t (t.dropEntry d (n ++ ending)) (.error f)
  | blocked {u : FileTree} {i : NodeId} (f : Failure) : t.entry? d n = some i →
    t.isDirNode i = true → u.entry? d n = some i → u.isDirNode i = true →
    Replaced d n c t u (.error f)
  | done {u : FileTree} {i : NodeId} : u.entry? d n = some i → u.contents? i = some c →
    Replaced d n c t u (.ok ())

section

variable {t u : FileTree} {p : Path} {d e i : NodeId} {n m c : Bytes}

theorem ne_ending (n : Bytes) : n ≠ n ++ ending := by
  intro same
  have length := congrArg List.length same
  rw [List.length_append, show ending.length = 4 from by decide] at length
  omega

theorem no_slash_temporary (p : Path) : (temporary p).raw.getLast? ≠ some Path.slash := by
  have last : (temporary p).raw.getLast? = some 112 := by
    rw [FileTree.raw_temporary, List.getLast?_append_of_ne_nil _ (by decide)]
    decide
  rw [last]
  decide

theorem contents?_of_file (there : i < t.nodes.size) (file : t.node i = .file c) :
    t.contents? i = some c := by
  rw [FileTree.node, Array.getD_eq_getD_getElem?, Array.getElem?_eq_getElem there,
    Option.getD_some] at file
  rw [FileTree.contents?_eq_some, Array.getElem?_eq_getElem there, file]

theorem atBeside_of_no_link (sound : t.Sound) (no_link : NoLink p t) : AtBeside p t := by
  have no_slash := no_slash_temporary p
  cases found : t.spotOf (temporary p) with
  | error fault =>
    refine .nothing ?_ ⟨fault, by rw [FileTree.remove, found]; rfl⟩ ?_
    · intro u i opened
      obtain ⟨spot, spotted⟩ := FileTree.spotOf_of_openFile opened
      rw [found] at spotted
      cases spotted
    · simp [FileTree.lookup_of_no_spot found]
  | ok spot =>
    obtain ⟨e, m, rfl, is_dir⟩ := FileTree.spotOf_temporary_named found
    obtain ⟨links, opens⟩ := FileTree.openFile_eq no_slash found
    obtain ⟨parent, es, closed, listed⟩ := FileTree.isDirNode_iff.mp is_dir
    cases entry : t.entry? e m with
    | none =>
      cases closed with
      | false => exact .missing found entry listed
      | true =>
        refine .nothing ?_ ⟨.os .noEntry, ?_⟩ ?_
        · rw [opens, FileTree.openSpot, entry]
          simp [FileTree.create, listed, FileTree.lift]
        · rw [FileTree.remove, found]
          simp only [bind, Except.bind, entry]
        · simp [FileTree.lookup_of_missing no_slash found entry]
    | some i =>
      cases node : t.node i with
      | dir parent' es' closed' =>
        have at_dir : t.isDirNode i = true := by rw [FileTree.isDirNode, node]
        have finds := FileTree.find_at_entry no_slash found entry (by simp [node])
        refine .nothing ?_ ⟨.os .isDirectory, ?_⟩ ?_
        · rw [opens, FileTree.openSpot, entry]
          simp [node, FileTree.lift]
        · rw [FileTree.remove, found]
          simp only [bind, Except.bind, entry, at_dir, if_true]
        · intro b there
          rw [FileTree.lookup, FileTree.holds, FileTree.read, finds] at there
          simp [bind, Except.bind, node] at there
      | link target => exact absurd node (no_link e m i target found entry)
      | file c => exact .there found entry (.inl ⟨c, contents?_of_file (sound.lt entry) node⟩)
      | full => exact .there found entry (.inr node)

/-- The file beside has been opened: it has an entry and is a file, or a device that was there. -/
structure Opened (d : NodeId) (n : Bytes) (t u : FileTree) (i : NodeId) : Prop where
  entry : u.entry? d (n ++ ending) = some i
  there : i < u.nodes.size
  current : u.current = t.current
  routes : Routes t u
  dirs : ∀ j, u.isDirNode j = true → t.isDirNode j = true
  kept : u.entry? d n = t.entry? d n
  file_or_device : (∃ c, u.contents? i = some c) ∨ u = t ∧ t.node i = .full

theorem Place.spot_temporary (place : Place p d n t) : t.isDirNode d = true ∧
    ((∃ fault, t.spotOf (temporary p) = .error fault) ∨
      t.spotOf (temporary p) = .ok (.entry d (n ++ ending))) := by
  obtain ⟨is_dir, beside⟩ := FileTree.spotOf_temporary place.named place.spot
  refine ⟨is_dir, ?_⟩
  cases found : t.spotOf (temporary p) with
  | error fault => exact .inl ⟨fault, rfl⟩
  | ok spot => exact .inr (by rw [beside spot found])

theorem opened_here (place : Place p d n t) (entry : t.entry? d (n ++ ending) = some i)
    (node : (∃ c, t.contents? i = some c) ∨ t.node i = .full) : Opened d n t t i where
  entry := entry
  there := place.sound.lt entry
  current := rfl
  routes := (FileTree.Ways.refl t).routes
  dirs _ is_dir := is_dir
  kept := rfl
  file_or_device := by
    rcases node with there | full
    · exact .inl there
    · exact .inr ⟨rfl, full⟩

theorem openFile_there (spot : t.spotOf (temporary p) = .ok (.entry e m))
    (entry : t.entry? e m = some i) (node : (∃ c, t.contents? i = some c) ∨ t.node i = .full) :
    t.openFile (temporary p) = .ok (t, i) := by
  obtain ⟨links, opens⟩ := FileTree.openFile_eq (no_slash_temporary p) spot
  rw [opens, FileTree.openSpot, entry]
  rcases node with ⟨c, there⟩ | full
  · simp only [FileTree.node_of_contents there]
    rfl
  · simp only [full]
    rfl

theorem opened_new {parent : NodeId} {es : List (Bytes × NodeId)}
    (listed : t.node d = .dir parent es false) (missing : t.entry? d (n ++ ending) = none) :
    Opened d n t (t.withFile d (n ++ ending)) t.nodes.size := by
  have relisted := FileTree.relisted_withFile listed (n ++ ending)
  refine ⟨?_, ?_, relisted.current, (FileTree.ways_withFile listed).routes, ?_, ?_, .inl ⟨[], ?_⟩⟩
  · rw [FileTree.entry?_withFile listed, missing, if_pos rfl, Option.none_or]
  · rw [relisted.size, Array.size_push]
    exact Nat.lt_succ_self _
  · intro j is_dir
    by_cases own : j = d
    · rw [own, FileTree.isDirNode, listed]
    · rwa [FileTree.isDirNode, relisted.node own, FileTree.node_push] at is_dir
  · rw [FileTree.entry?_withFile listed, if_neg (ne_ending n), Option.or_none]
  · rw [FileTree.contents?_withFile listed, if_pos rfl]

theorem openFile_cases (place : Place p d n t) :
    (∃ fault, t.openFile (temporary p) = .error fault) ∧
        (∃ fault, t.remove (temporary p) = .error fault) ∨
      t.spotOf (temporary p) = .ok (.entry d (n ++ ending)) ∧
        ∃ u i, t.openFile (temporary p) = .ok (u, i) ∧ Opened d n t u i := by
  have no_slash := no_slash_temporary p
  have beside := (FileTree.spotOf_temporary place.named place.spot).2
  cases atBeside_of_no_link place.sound place.no_link with
  | nothing refused nothing _ =>
    left
    refine ⟨?_, nothing⟩
    cases opened : t.openFile (temporary p) with
    | error fault => exact ⟨fault, rfl⟩
    | ok x => exact absurd opened (refused x.1 x.2)
  | missing spot missing listed =>
    cases beside _ spot
    exact .inr ⟨spot, _, _, FileTree.openFile_of_missing no_slash spot listed missing,
      opened_new listed missing⟩
  | there spot entry node =>
    cases beside _ spot
    exact .inr ⟨spot, t, _, openFile_there spot entry node, opened_here place entry node⟩

theorem truncate_append (there : ∃ old, t.contents? i = some old) (c : Bytes) :
    (t.truncate i).append i c = .ok (t.setNode i (.file c)) := by
  obtain ⟨old, there⟩ := there
  have empty : t.truncate i = t.setNode i (.file []) := by
    rw [FileTree.truncate, FileTree.node_of_contents there]
  have emptied : (t.setNode i (.file [])).contents? i = some [] :=
    FileTree.contents?_eq_some.mpr
      (FileTree.getElem?_setNode_self (FileTree.lt_of_contents there))
  rw [empty, FileTree.append_of_contents emptied, FileTree.extended_eq emptied, List.nil_append,
    FileTree.setNode, FileTree.setNode, FileTree.setNode]
  simp

theorem remove_of_spot {m : Bytes} (no_slash : p.raw.getLast? ≠ some Path.slash)
    (spot : t.spotOf p = .ok (.entry d m)) (entry : t.entry? d m = some i)
    (no_dir : t.isDirNode i = false) : t.remove p = .ok (t.dropEntry d m) := by
  rw [FileTree.remove, spot]
  simp only [bind, Except.bind, entry, no_dir, if_neg no_slash]
  rfl

theorem isDirNode_dropEntry {m : Bytes} (is_dir : t.isDirNode i = true) :
    (t.dropEntry d m).isDirNode i = true := by
  unfold FileTree.dropEntry
  split
  · rename_i parent es closed listed
    by_cases own : i = d
    · rw [own, FileTree.isDirNode,
        FileTree.node_setNode_self (FileTree.lt_of_node listed (by simp))]
    · rw [FileTree.isDirNode, FileTree.node_setNode_ne own]
      exact is_dir
  · exact is_dir

theorem move_lands {m : Bytes} (is_dir : t.isDirNode d = true) (there : t.contents? i = some c) :
    FileTree.entry? (t.move d m d n i) d n = some i ∧
      (t.move d m d n i).contents? i = some c := by
  constructor
  · rw [FileTree.entry?_move is_dir there, if_pos ⟨rfl, rfl⟩]
  · rw [FileTree.contents?_move there, there]

/-- The file beside takes the place of the file, unless there is a directory. -/
theorem rename_cases (no_slash : p.raw.getLast? ≠ some Path.slash)
    (source : t.spotOf (temporary p) = .ok (.entry d (n ++ ending)))
    (target : t.spotOf p = .ok (.entry d n)) (is_dir : t.isDirNode d = true)
    (entry : t.entry? d (n ++ ending) = some i) (there : t.contents? i = some c) :
    (∃ u, t.rename (temporary p) p = .ok u ∧ u.entry? d n = some i ∧ u.contents? i = some c) ∨
      ∃ fault o, t.rename (temporary p) p = .error fault ∧ t.entry? d n = some o ∧
        t.isDirNode o = true := by
  have no_dir := FileTree.isDirNode_of_contents there
  have beside : ((temporary p).raw.getLast? == some Path.slash) = false :=
    beq_false_of_ne (no_slash_temporary p)
  have open_end : (p.raw.getLast? == some Path.slash) = false := beq_false_of_ne no_slash
  rw [FileTree.rename, source, target]
  simp only [bind, Except.bind, entry, no_dir, beside, open_end, Bool.or_self, Bool.and_false,
    Bool.false_and, Bool.false_eq_true, if_false, beq_iff_eq]
  have lands := move_lands (n := n) (m := n ++ ending) is_dir there
  cases old : t.entry? d n with
  | none => exact .inl ⟨_, rfl, lands⟩
  | some o =>
    by_cases same : o = i
    · subst same
      rw [if_pos rfl]
      exact .inl ⟨t, rfl, old, there⟩
    · rw [if_neg (by simpa using same)]
      cases at_o : t.isDirNode o with
      | false => exact .inl ⟨_, by simp [at_o]; rfl, lands⟩
      | true => exact .inr ⟨_, o, by simp [at_o]; rfl, rfl, at_o⟩

/-- A tree in which the file beside has been written. -/
theorem Opened.publish {w : FileTree} (opened : Opened d n t u i) (place : Place p d n t)
    (beside : t.spotOf (temporary p) = .ok (.entry d (n ++ ending)))
    (written : w = u.setNode i (.file c)) (file : ∃ old, u.contents? i = some old) :
    Replaced d n c t ((publish p w i).1.getLastD w) (publish p w i).2 ∧
      ((publish p w i).2 = .ok () ∨ ∃ o, t.entry? d n = some o ∧ t.isDirNode o = true) := by
  obtain ⟨old, file⟩ := file
  have routes : Routes t w := by
    rw [written]
    exact opened.routes.trans (FileTree.ways_setFile file c).routes
  have current : w.current = t.current := by
    rw [written]
    exact opened.current
  have entries : ∀ m, w.entry? d m = u.entry? d m := by
    intro m
    rw [written]
    exact FileTree.entry?_setFile file c
  have there : w.contents? i = some c := by
    rw [written]
    exact FileTree.contents?_eq_some.mpr (FileTree.getElem?_setNode_self opened.there)
  have entry : w.entry? d (n ++ ending) = some i := (entries _).trans opened.entry
  have is_dir := (routes.dirs d place.spot_temporary.1).1
  have source := FileTree.spotOf_of_routes current routes beside
  have synced : w.sync i = .ok () := by
    rw [FileTree.sync, FileTree.node_of_contents there]
  rw [Textfile.publish, synced]
  rcases rename_cases place.named source (FileTree.spotOf_of_routes current routes place.spot)
    is_dir entry there with ⟨v, renamed, at_file, holds⟩ | ⟨fault, o, refused, taken, dir⟩
  · rw [renamed]
    exact ⟨.done at_file holds, .inl rfl⟩
  · have old_entry : t.entry? d n = some o := by
      rw [← opened.kept, ← entries]
      exact taken
    have old_dir : t.isDirNode o = true := by
      have other : o ≠ i := by
        rintro rfl
        rw [FileTree.isDirNode_of_contents there] at dir
        cases dir
      rw [FileTree.isDirNode, written, FileTree.node_setNode_ne other] at dir
      exact opened.dirs o dir
    have removed := remove_of_spot (no_slash_temporary p) source entry
      (FileTree.isDirNode_of_contents there)
    rw [refused]
    simp only [abandon, removed]
    refine ⟨.blocked _ old_entry old_dir ?_ (isDirNode_dropEntry dir), .inr ⟨o, old_entry, old_dir⟩⟩
    obtain ⟨parent, es, closed, listed⟩ := FileTree.isDirNode_iff.mp is_dir
    change FileTree.entry? (w.dropEntry d (n ++ ending)) d n = some o
    rw [FileTree.entry?_dropEntry listed, if_neg (ne_ending n)]
    exact taken

theorem replace_cases (place : Place p d n t) (c : Bytes) :
    Replaced d n c t ((replace p c t).1.getLastD t) (replace p c t).2 := by
  rcases openFile_cases place with ⟨⟨fault, refused⟩, fault', nothing⟩ |
    ⟨beside, u, i, opens, opened⟩
  · rw [replace, refused]
    simp only [abandon, nothing]
    exact .untouched _
  · rw [replace, opens]
    rcases opened.file_or_device with file | ⟨rfl, full⟩
    · simp only [truncate_append file, List.getLastD_cons]
      exact (opened.publish place beside rfl file).1
    · have entry := opened.entry
      have removed := remove_of_spot (no_slash_temporary p) beside entry
        (by rw [FileTree.isDirNode, full])
      have same : u.truncate i = u := by rw [FileTree.truncate, full]
      simp only [same, FileTree.append, full]
      split
      · rename_i e refused
        simp only [abandon, removed]
        exact .device _ entry full
      · rename_i w appended
        split at appended
        · cases appended
          simp only [Textfile.publish, FileTree.sync, full, abandon, removed]
          exact .device _ entry full
        · cases appended

/-- To take a device away is to leave all files and all ways to them. -/
theorem spares_dropEntry {m : Bytes} (is_dir : t.isDirNode d = true)
    (entry : t.entry? d m = some i) (full : t.node i = .full) :
    Spares t (t.dropEntry d m) := by
  obtain ⟨parent, es, closed, listed⟩ := FileTree.isDirNode_iff.mp is_dir
  have kept : ∀ e k child, t.entry? e k = some child → t.node child ≠ .full →
      FileTree.entry? (t.dropEntry d m) e k = some child := by
    intro e k child there other
    by_cases own : e = d
    · subst own
      rw [FileTree.entry?_dropEntry listed, if_neg, there]
      rintro rfl
      rw [entry] at there
      cases there
      exact other full
    · rw [FileTree.dropEntry, listed, FileTree.entry?_congr (FileTree.node_setNode_ne own)]
      exact there
  refine ⟨?_, fun e k child c there file => kept e k child there ?_, fun j c there => ?_⟩
  · have routes := FileTree.routes_setDir listed (es.filter fun e => e.1 != m)
    rw [FileTree.dropEntry, listed] at kept ⊢
    refine routes fun k child there on => kept d k child there ?_
    rcases on with dir | ⟨target, link⟩
    · obtain ⟨parent', es', closed', at_child⟩ := FileTree.isDirNode_iff.mp dir
      simp [at_child]
    · simp [link]
  · simp [FileTree.node_of_contents file]
  · exact (FileTree.contents?_dropEntry t d m j).trans there

theorem Replaced.kept {f : Failure} (place : Place p d n t)
    (replaced : Replaced d n c t u (.error f)) : Kept d n t u := by
  cases replaced with
  | untouched => exact .refl t
  | device _ entry full =>
    have is_dir := place.spot_temporary.1
    refine ⟨fun c there => (spares_dropEntry is_dir entry full).held there, fun absent => ?_⟩
    obtain ⟨parent, es, closed, listed⟩ := FileTree.isDirNode_iff.mp is_dir
    have same : (t.dropEntry d (n ++ ending)).heldAt d n = t.heldAt d n := by
      rw [FileTree.heldAt, FileTree.entry?_dropEntry listed, if_neg (ne_ending n)]
      exact congrArg _ (funext (FileTree.contents?_dropEntry t d _))
    rw [same, absent]
  | blocked _ entry dir entry' dir' =>
    refine ⟨fun c there => ?_, fun _ => FileTree.heldAt_of_dir entry' dir'⟩
    rw [FileTree.held_of_dir entry dir] at there
    cases there

theorem Replaced.held (replaced : Replaced d n c t u (.ok ())) : u.held d n = some c := by
  cases replaced with
  | done entry there => exact FileTree.held_of_entry entry there

/-- Wherever the directories above can be made, this is where the file is to stand. -/
def Aims (p : Path) (d : NodeId) (n : Bytes) (t : FileTree) : Prop :=
  (ground t p).2 = .ok () → Place p d n (ground t p).1

theorem grown_ground (t : FileTree) (p : Path) : t.Grown (ground t p).1 := by
  unfold ground
  split
  · exact .refl t
  · exact FileTree.grown_makeDirs _ t _

theorem write_of_ground (made : (ground t p).2 = .ok ()) : write t p c =
    ((replace p c (ground t p).1).1.getLastD (ground t p).1,
      (replace p c (ground t p).1).2) := by
  rw [write, run]
  unfold ground at made ⊢
  cases up : p.parent? with
  | none => rfl
  | some above =>
    rw [up] at made
    dsimp only at made ⊢
    cases all : t.makeAll above with
    | mk t' result =>
      rw [all] at made
      cases made
      rw [List.getLastD_cons]

theorem write_of_no_ground {fault : IoFault} (failed : (ground t p).2 = .error fault) :
    ∃ f, write t p c = ((ground t p).1, .error f) := by
  rw [write, run]
  unfold ground at failed ⊢
  cases up : p.parent? with
  | none =>
    rw [up] at failed
    cases failed
  | some above =>
    rw [up] at failed
    dsimp only at failed ⊢
    cases all : t.makeAll above with
    | mk t' result =>
      rw [all] at failed
      cases failed
      exact ⟨_, rfl⟩

theorem write_cases (t : FileTree) (p : Path) (c : Bytes) :
    (∃ f, write t p c = ((ground t p).1, .error f)) ∨
      (ground t p).2 = .ok () ∧ write t p c =
        ((replace p c (ground t p).1).1.getLastD (ground t p).1,
          (replace p c (ground t p).1).2) := by
  cases made : (ground t p).2 with
  | error fault => exact .inl (write_of_no_ground made)
  | ok => exact .inr ⟨rfl, write_of_ground made⟩

theorem write_held (aims : Aims p d n t) (done : (write t p c).2 = .ok ()) :
    (write t p c).1.held d n = some c := by
  rcases write_cases t p c with ⟨f, failed⟩ | ⟨made, written⟩
  · rw [failed] at done
    cases done
  · have replaced := replace_cases (aims made) c
    rw [written] at done ⊢
    rw [done] at replaced
    exact replaced.held

theorem write_kept {f : Failure} (aims : Aims p d n t) (failed : (write t p c).2 = .error f) :
    Kept d n t (write t p c).1 := by
  have grown := (grown_ground t p).kept (d := d) (n := n)
  rcases write_cases t p c with ⟨f', stopped⟩ | ⟨made, written⟩
  · rw [stopped]
    exact grown
  · have replaced := replace_cases (aims made) c
    rw [written] at failed ⊢
    rw [failed] at replaced
    exact grown.trans (replaced.kept (aims made))

theorem write_ok {parent : NodeId} {es : List (Bytes × NodeId)} (place : Place p d n t)
    (made : ground t p = (t, .ok ())) (listed : t.node d = .dir parent es false)
    (beside : t.spotOf (temporary p) = .ok (.entry d (n ++ ending)))
    (missing : t.entry? d (n ++ ending) = none)
    (no_dir : ∀ o, t.entry? d n = some o → t.isDirNode o = false) :
    (write t p c).2 = .ok () := by
  have opens := FileTree.openFile_of_missing (no_slash_temporary p) beside listed missing
  have opened := opened_new listed missing
  have fresh : (t.withFile d (n ++ ending)).contents? t.nodes.size = some [] := by
    rw [FileTree.contents?_withFile listed, if_pos rfl]
  have replaced : (replace p c t).2 = .ok () := by
    rw [replace, opens]
    simp only [truncate_append ⟨_, fresh⟩]
    rcases (opened.publish place beside (c := c) rfl ⟨_, fresh⟩).2 with done | ⟨o, entry, dir⟩
    · exact done
    · rw [no_dir o entry] at dir
      cases dir
  rw [write_of_ground (by rw [made]), made]
  exact replaced

theorem place_of_plain (plain : FileTree.Plain n) (beside : FileTree.Plain (n ++ ending))
    (is_dir : t.isDirNode t.current = true) (sound : t.Sound)
    (no_link : ∀ i target, t.entry? t.current (n ++ ending) = some i → t.node i ≠ .link target) :
    ground t ⟨n⟩ = (t, .ok ()) ∧ Place ⟨n⟩ t.current n t := by
  have made : ground t ⟨n⟩ = (t, .ok ()) := by
    rw [ground, FileTree.parent?_of_plain plain]
    exact FileTree.makeAll_of_isEmpty rfl
  refine ⟨made, fun last => plain.1 (List.mem_of_getLast? last),
    FileTree.spotOf_of_plain plain is_dir, sound, ?_⟩
  intro e m i target spot entry
  have there : t.spotOf (temporary ⟨n⟩) = .ok (.entry t.current (n ++ ending)) :=
    FileTree.spotOf_of_plain beside is_dir
  cases there.symm.trans spot
  exact no_link i target entry

end

end MountProbe.Textfile
