import MountProbe.Proofs.FileTree.Atomic
import MountProbe.Proofs.FileTree.Confined
import MountProbe.Proofs.FileTree.Elsewhere
import Mathlib.Logic.Relation

/-! What publishing a text leaves alone. Directories above the file are made as far as they are
missing. From there on no node changes but the file that the name beside leads to, and no entry but
the two at the path and beside it, whatever step the system refuses. -/
namespace MountProbe

/-- The directory that holds the place, the one that holds that directory, and so on. -/
def Path.Above : Path → Path → Prop :=
  Relation.TransGen fun p above => p.parent? = some above

namespace Textfile

open FileTree (Agree Confined Furnished Opens ending)

/-- A new file is made at the entry when the name beside is opened. -/
def MadeBeside (p : Path) (t : FileTree) (d : NodeId) (n : Bytes) : Prop :=
  ∃ u i, t.openFile (temporary p) = .ok (u, i) ∧ t.entry? d n = none ∧ u.entry? d n = some i

/-- The entry is the one at the path, the one beside it, or where a link beside it leads. -/
def IsEnd (p : Path) (t : FileTree) (d : NodeId) (n : Bytes) : Prop :=
  t.spotOf p = .ok (.entry d n) ∨ t.spotOf (temporary p) = .ok (.entry d n) ∨ MadeBeside p t d n

/-- Every node is what it was, but for the contents of the file that the name beside leads to, and
every entry leads to what it led to, but for those at the ends. -/
structure OnlyBeside (p : Path) (t u : FileTree) : Prop where
  current : u.current = t.current
  others : ∀ j < t.nodes.size, t.isDirNode j = false → u.node j = t.node j ∨
    t.find (temporary p) = .ok j ∧ ∃ c c', t.node j = .file c ∧ u.node j = .file c'
  dirs : ∀ j parent es closed, t.node j = .dir parent es closed →
    ∃ es', u.node j = .dir parent es' closed
  entries : ∀ d n, ¬ IsEnd p t d n → u.entry? d n = t.entry? d n

/-- Nothing has changed but the file that the name beside leads to and what stands at the ends. -/
structure Begun (p : Path) (i : NodeId) (t u : FileTree) : Prop where
  beside : i < t.nodes.size → t.find (temporary p) = .ok i
  agree : Agree i t u
  confined : Confined (IsEnd p t) i t u

structure Ready (p : Path) (i : NodeId) (t u : FileTree) : Prop extends Begun p i t u where
  top : ∀ e m j, t.spotOf (temporary p) = .ok (.entry e m) → u.entry? e m = some j →
    j = i ∨ ∃ target, u.node j = .link target

/-- Each tree of a run has the rest as it was, and after a run that succeeds a reader finds the new
text unless a link is in the way. -/
structure Spares (p : Path) (c : Bytes) (t u : FileTree) (states : List FileTree)
    (result : Except Failure Unit) : Prop where
  each : ∀ v ∈ states, OnlyBeside p t v
  named : result = .ok () → p.raw.getLast? ≠ some Path.slash
  done : result = .ok () → NoLink p t → Clear p t →
    (states.getLastD u).lookup p = some (.ok c)

/-- The directories above a file, as far as they can be made and the system does not refuse it. -/
def Refusals.ground (r : Refusals) (t : FileTree) (p : Path) : FileTree × Except IoFault Unit :=
  match p.parent?, r.making with
  | none, _ => (t, .ok ())
  | some _, some fault => (t, .error fault)
  | some above, none => t.makeAll above

section

variable {t u v w : FileTree} {p : Path} {d e i j : NodeId} {n m c b : Bytes}
  {states : List FileTree} {result : Except Failure Unit} {fault : IoFault}

theorem OnlyBeside.refl (p : Path) (t : FileTree) : OnlyBeside p t t :=
  ⟨rfl, fun _ _ _ => .inl rfl, fun _ _ es _ listed => ⟨es, listed⟩, fun _ _ _ => rfl⟩

theorem Begun.no_dir (begun : Begun p i t u) : u.isDirNode i = false := by
  by_contra is_dir
  exact begun.agree.ends.2 (.inl (by simpa using is_dir))

theorem Begun.next (begun : Begun p i t u) (confined : Confined (IsEnd p t) i u v) :
    OnlyBeside p t v := by
  have both := begun.confined.trans confined
  refine ⟨both.current, fun j there no_dir => ?_, both.dirs, both.entries⟩
  by_cases own : j = i
  · rw [own] at there ⊢
    exact both.own.imp_right fun files => ⟨begun.beside there, files⟩
  · exact .inl (both.others j own no_dir)

theorem Begun.only (begun : Begun p i t u) : OnlyBeside p t u :=
  begun.next (.refl _ i u)

theorem begun_nothing (p : Path) (t : FileTree) : Begun p t.nodes.size t t where
  beside inside := absurd inside (Nat.lt_irrefl _)
  agree := .refl fun on => on.no_file [] (FileTree.node_size t)
  confined := .refl _ _ t

theorem Spares.cons (later : Spares p c t v states result) (first : OnlyBeside p t v) :
    Spares p c t u (v :: states) result := by
  refine ⟨List.forall_mem_cons.mpr ⟨first, later.each⟩, later.named, fun done no_link clear => ?_⟩
  rw [List.getLastD_cons]
  exact later.done done no_link clear

theorem spares_nothing (f : Failure) : Spares p c t u [] (.error f) :=
  ⟨by simp, by simp, by simp⟩

theorem Begun.abandoned (begun : Begun p i t u) (fault : IoFault) :
    Spares p c t v (abandon p u fault).1 (abandon p u fault).2 := by
  unfold abandon
  split
  · rename_i w removed
    obtain ⟨d, n, j, found, -, -, rfl⟩ := FileTree.removed_cases removed
    have own : IsEnd p t d n := .inr (.inl (begun.agree.spotOf_eq_ok.mp found))
    exact (spares_nothing _).cons (begun.next (FileTree.confined_dropEntry begun.no_dir own))
  · exact spares_nothing _

theorem Ready.set (ready : Ready p i t u) (there : u.contents? i = some b) (c : Bytes) :
    Ready p i t (u.setNode i (.file c)) where
  beside := ready.beside
  agree := ready.agree.trans (FileTree.agree_setFile there c)
  confined := ready.confined.trans (FileTree.confined_setFile there c)
  top e m j found entry := by
    rw [FileTree.entry?_setFile there] at entry
    by_cases own : j = i
    · exact .inl own
    · rw [FileTree.node_setNode_ne own]
      exact ready.top e m j found entry

theorem Ready.no_dir_top (ready : Ready p i t u) (found : t.spotOf (temporary p) = .ok (.entry e m))
    (entry : u.entry? e m = some j) : u.isDirNode j = false := by
  rcases ready.top e m j found entry with rfl | ⟨target, link⟩
  · exact ready.no_dir
  · rw [FileTree.isDirNode, link]

theorem Ready.top_eq (ready : Ready p i t u) (no_link : NoLink p t)
    (found : t.spotOf (temporary p) = .ok (.entry e m)) (entry : u.entry? e m = some j) :
    j = i := by
  rcases ready.top e m j found entry with same | ⟨target, link⟩
  · exact same
  · by_contra other
    exact no_link e m j target found ((ready.agree.entries e m j other).mp entry)
      (ready.agree.toAlike.link_of_ne other link)

/-- A rename changes the two entries only, and a reader finds the new text at the path. -/
theorem Ready.renamed (ready : Ready p i t w) (there : w.contents? i = some c)
    (renamed : w.rename (temporary p) p = .ok v) :
    OnlyBeside p t v ∧ p.raw.getLast? ≠ some Path.slash ∧
      (NoLink p t → Clear p t → v.lookup p = some (.ok c)) := by
  have agree := ready.agree
  obtain ⟨e, m, -, -, j, source, -, entry, -⟩ := FileTree.rename_cases renamed
  have found := agree.spotOf_eq_ok.mp source
  have no_dir_top := ready.no_dir_top found entry
  obtain ⟨d, n, no_slash, target, ⟨same, rfl⟩ | ⟨rfl, no_dir⟩⟩ :=
    renamed_cases source entry no_dir_top renamed
  · refine ⟨ready.only, no_slash, fun no_link _ => ?_⟩
    obtain rfl := ready.top_eq no_link found entry
    exact FileTree.lookup_of_entry no_slash target same there
  · obtain ⟨is_dir, beside⟩ := FileTree.spotOf_temporary no_slash target
    obtain ⟨rfl, rfl⟩ : d = e ∧ m = n ++ ending := by
      cases beside _ source
      exact ⟨rfl, rfl⟩
    refine ⟨?_, no_slash, ?_⟩
    · apply ready.next
      exact FileTree.confined_move is_dir ready.no_dir no_dir_top (.inr (.inl found))
        (.inl (agree.spotOf_eq_ok.mp target))
    · intro no_link clear
      obtain rfl := ready.top_eq no_link found entry
      obtain ⟨lands, holds⟩ := move_lands (m := n ++ ending) (n := n) is_dir there
      exact FileTree.lookup_of_entry no_slash
        (clear.spotOf_moved agree entry there is_dir target no_dir) lands holds

variable (r : Refusals)

theorem Ready.published (ready : Ready p i t w)
    (node : w.contents? i = some c ∨ w.node i = .full) :
    Spares p c t w (r.publish p w i).1 (r.publish p w i).2 := by
  rcases r.publish_cases node with ⟨fault, given_up⟩ | ⟨v, there, renamed, done⟩
  · rw [given_up]
    exact ready.abandoned fault
  · rw [done]
    obtain ⟨only, no_slash, new⟩ := ready.renamed there renamed
    exact ⟨by simpa using only, fun _ => no_slash, fun _ => new⟩

theorem Ready.finished (ready : Ready p i t w)
    (node : w.contents? i = some (r.accepted c) ∨ w.node i = .full) :
    Spares p c t w (r.finish p w i).1 (r.finish p w i).2 := by
  rw [Refusals.finish]
  rw [Refusals.accepted] at node
  split
  · rename_i all
    rw [all] at node
    exact ready.published r node
  · exact ready.abandoned _

theorem Ready.filled (ready : Ready p i t u)
    (node : (∃ c, u.contents? i = some c) ∨ u.node i = .full) :
    Spares p c t v (r.fill p c u i).1 (r.fill p c u i).2 := by
  have fills := r.fills (c := c) (p := p) node
  generalize r.fill p c u i = outcome at fills ⊢
  cases fills with
  | file there =>
    have written := ready.set there (r.accepted c)
    have holds : (u.setNode i (.file (r.accepted c))).contents? i = some (r.accepted c) :=
      FileTree.contents?_eq_some.mpr
        (FileTree.getElem?_setNode_self (FileTree.lt_of_contents there))
    exact ((written.finished r (.inl holds)).cons written.only).cons (ready.set there []).only
  | refused fault _ => exact (ready.abandoned fault).cons ready.only
  | device full => exact ((ready.finished r (.inr full)).cons ready.only).cons ready.only

theorem eq_or_link_of_find {q : Path} (no_slash : q.raw.getLast? ≠ some Path.slash)
    (finds : u.find q = .ok i) (found : u.spotOf q = .ok (.entry e m))
    (entry : u.entry? e m = some j) : j = i ∨ ∃ target, u.node j = .link target := by
  by_cases link : ∃ target, u.node j = .link target
  · exact .inr link
  · have at_entry := FileTree.find_at_entry no_slash found entry fun target at_link =>
      link ⟨target, at_link⟩
    cases at_entry.symm.trans finds
    exact .inl rfl

theorem ready_of_openFile (sound : t.Sound) (opened : t.openFile (temporary p) = .ok (u, i)) :
    Ready p i t u ∧ ((∃ c, u.contents? i = some c) ∨ u.node i = .full) := by
  obtain ⟨opens, finds⟩ := FileTree.opens_of_openFile opened
  have top : ∀ e m j, t.spotOf (temporary p) = .ok (.entry e m) → u.entry? e m = some j →
      j = i ∨ ∃ target, u.node j = .link target :=
    fun e m j found => eq_or_link_of_find (no_slash_temporary p) finds
      (FileTree.spotOf_of_ways opens.ways found)
  cases opens with
  | there ends =>
    refine ⟨⟨⟨fun _ => finds, .refl ends, .refl _ i t⟩, top⟩, ?_⟩
    have inside := (FileTree.quiet_openFile sound opened).2
    cases node : t.node i with
    | file c => exact .inl ⟨c, contents?_of_file inside node⟩
    | full => exact .inr rfl
    | dir parent es closed =>
      exact absurd (.inl (FileTree.isDirNode_iff.mpr ⟨parent, es, closed, node⟩)) ends
    | link target => exact absurd (.inr ⟨target, node⟩) ends
  | made listed missing =>
    rename_i d parent n es
    have is_dir : t.isDirNode d = true := by rw [FileTree.isDirNode, listed]
    have no_dir : t.isDirNode t.nodes.size = false := by
      rw [FileTree.isDirNode, FileTree.node_size]
    have entry : FileTree.entry? (t.withFile d n) d n = some t.nodes.size := by
      rw [FileTree.entry?_withFile listed, missing, if_pos rfl, Option.none_or]
    refine ⟨⟨⟨fun inside => absurd inside (Nat.lt_irrefl _), FileTree.agree_withFile listed,
      FileTree.confined_withFile is_dir no_dir (.inr (.inr ⟨_, _, opened, missing, entry⟩))⟩, top⟩,
      .inl ⟨[], ?_⟩⟩
    rw [FileTree.contents?_withFile listed, if_pos rfl]

theorem spares_of_replace (sound : t.Sound) (c : Bytes) :
    Spares p c t u (r.replace p c t).1 (r.replace p c t).2 := by
  rw [Refusals.replace]
  cases r.opening with
  | some fault => exact (begun_nothing p t).abandoned fault
  | none =>
    rw [Option.elim_none]
    cases opened : t.openFile (temporary p) with
    | error fault => exact (begun_nothing p t).abandoned fault
    | ok x =>
      obtain ⟨ready, node⟩ := ready_of_openFile sound opened
      exact ready.filled r node

theorem furnished_ground (r : Refusals) (t : FileTree) (p : Path) :
    Furnished p.Above t (r.ground t p).1 := by
  unfold Refusals.ground
  split
  · exact .refl t
  · exact .refl t
  · rename_i above up _
    exact FileTree.furnished_of_makeDirs (fun higher up => higher.tail up) _ t (.single up)

theorem sound_ground (r : Refusals) (sound : t.Sound) : (r.ground t p).1.Sound := by
  unfold Refusals.ground
  split
  · exact sound
  · exact sound
  · exact (FileTree.quiet_makeDirs _ t _).sound sound

theorem run_of_ground (r : Refusals) (t : FileTree) (p : Path) (c : Bytes) :
    (∃ f, (r.run t p c).result = .error f ∧ (r.run t p c).states = [(r.ground t p).1]) ∨
      (r.run t p c).result = (r.replace p c (r.ground t p).1).2 ∧
        ((r.run t p c).states = (r.ground t p).1 :: (r.replace p c (r.ground t p).1).1 ∨
          (r.ground t p).1 = t ∧ (r.run t p c).states = (r.replace p c t).1) := by
  rw [Refusals.run, Refusals.ground]
  cases p.parent? with
  | none => exact .inr ⟨rfl, .inr ⟨rfl, rfl⟩⟩
  | some above =>
    cases r.making with
    | some fault => exact .inl ⟨_, rfl, rfl⟩
    | none =>
      dsimp only
      cases t.makeAll above with
      | mk t' made =>
        cases made with
        | error fault => exact .inl ⟨_, rfl, rfl⟩
        | ok => exact .inr ⟨rfl, .inl rfl⟩

theorem spares_of_run (sound : t.Sound) (c : Bytes) :
    Spares p c (r.ground t p).1 t (r.run t p c).states (r.run t p c).result := by
  have replaced : ∀ u, Spares p c (r.ground t p).1 u (r.replace p c (r.ground t p).1).1
      (r.replace p c (r.ground t p).1).2 :=
    fun u => spares_of_replace r (sound_ground r sound) c
  have first := OnlyBeside.refl p (r.ground t p).1
  rcases run_of_ground r t p c with ⟨f, failed, states⟩ | ⟨result, states | ⟨same, states⟩⟩
  · rw [failed, states]
    exact (spares_nothing f).cons first
  · rw [result, states]
    exact (replaced _).cons first
  · rw [result, states]
    rw [same] at replaced ⊢
    exact replaced t

theorem no_slash_of_write (sound : t.Sound) (done : (write t p c).2 = .ok ()) :
    p.raw.getLast? ≠ some Path.slash := by
  rw [write_eq] at done
  exact (spares_of_run Refusals.nothing sound c).named done

theorem onlyBeside_last (each : ∀ v ∈ states, OnlyBeside p t v) (none : states = [] → t = u) :
    OnlyBeside p t (states.getLastD u) := by
  cases states with
  | nil =>
    rw [List.getLastD_nil, ← none rfl]
    exact .refl p t
  | cons v later =>
    rw [List.getLastD_cons]
    exact each _ List.getLastD_mem_cons

/-- Whatever the system refuses: the directories above the file are made as far as they are missing,
and from there on each tree of a run differs from the first in the file that the name beside leads to
and in the entries at the ends only. After a run that succeeds a reader finds the text at the path,
unless a link stands beside or the path is looked up through the link that the file replaces. -/
theorem nothing_else_changes (sound : t.Sound) (c : Bytes) :
    Furnished p.Above t (r.ground t p).1 ∧
      (∀ u ∈ (r.run t p c).states, OnlyBeside p (r.ground t p).1 u) ∧
      OnlyBeside p (r.ground t p).1 ((r.run t p c).states.getLastD t) ∧
      ((r.run t p c).result = .ok () → NoLink p (r.ground t p).1 → Clear p (r.ground t p).1 →
        ((r.run t p c).states.getLastD t).lookup p = some (.ok c)) ∧
      write t p c = ((Refusals.nothing.run t p c).states.getLastD t,
        (Refusals.nothing.run t p c).result) := by
  have spares := spares_of_run (p := p) r sound c
  refine ⟨furnished_ground r t p, spares.each, onlyBeside_last spares.each fun none => ?_,
    spares.done, write_eq t p c⟩
  rcases run_of_ground r t p c with ⟨f, -, states⟩ | ⟨-, states | ⟨same, -⟩⟩
  · rw [states] at none
    cases none
  · rw [states] at none
    cases none
  · exact same

end

/-- The files "v" and "k", and the link "m.tmp" to "v". -/
def linkAside : FileTree :=
  shelf [([0x6D] ++ ending, .link [0x76]), ([0x76], .file [0x6F]), ([0x6B], .file [0x6B])]

/-- Behind a link at the name beside, the other file keeps its contents; where there is no link, the
text is found. -/
theorem nothing_else_changes_on_a_shelf :
    (write linkAside ⟨[0x6D]⟩ [0x6E]).1.node 3 = .file [0x6B] ∧
      (write oneFile ⟨[0x6D]⟩ [0x6E]).1.lookup ⟨[0x6D]⟩ = some (.ok [0x6E]) := by
  constructor
  · obtain ⟨-, -, last, -, same⟩ := nothing_else_changes (p := ⟨[0x6D]⟩) Refusals.nothing
      (t := linkAside) (FileTree.sound_of_nodes (by decide)) [0x6E]
    have ground : (Refusals.nothing.ground linkAside ⟨[0x6D]⟩).1 = linkAside := by cbv
    rw [same]
    rw [ground] at last
    rcases last.others 3 (by decide) (by decide) with still | ⟨found, -⟩
    · exact still
    · have leads : linkAside.find (temporary ⟨[0x6D]⟩) = .ok 2 := by cbv
      cases leads.symm.trans found
  · obtain ⟨-, -, -, done, same⟩ := nothing_else_changes (p := ⟨[0x6D]⟩) Refusals.nothing
      (t := oneFile) (FileTree.sound_of_nodes (by decide)) [0x6E]
    have ground : (Refusals.nothing.ground oneFile ⟨[0x6D]⟩).1 = oneFile := by cbv
    have ok : (Refusals.nothing.run oneFile ⟨[0x6D]⟩ [0x6E]).result = .ok () := by cbv
    rw [same]
    rw [ground] at done
    exact done ok fit_oneFile.no_link fit_oneFile.clear

/-- A link at the name beside is followed to a file that has nothing to do with the path. A path that
is looked up through the link that stands there leads nowhere after a run that succeeds. -/
theorem changes_through_links :
    (linkAside.Sound ∧ linkAside.find ⟨[0x6D]⟩ = .error (.os .noEntry) ∧
      linkAside.lookup ⟨[0x76]⟩ = some (.ok [0x6F]) ∧
      (write linkAside ⟨[0x6D]⟩ [0x6E]).2 = .ok () ∧
      (write linkAside ⟨[0x6D]⟩ [0x6E]).1.lookup ⟨[0x76]⟩ = some (.ok [0x6E])) ∧
    (ownLink.Sound ∧ (write ownLink ⟨[0x6C, 0x2F, 0x6C]⟩ [0x6E]).2 = .ok () ∧
      (write ownLink ⟨[0x6C, 0x2F, 0x6C]⟩ [0x6E]).1.find ⟨[0x6C, 0x2F, 0x6C]⟩ =
        .error (.os .notDirectory)) :=
  ⟨⟨FileTree.sound_of_nodes (by decide), by cbv, by cbv, by cbv, by cbv⟩,
    ⟨FileTree.sound_of_nodes (by decide), by cbv, by cbv⟩⟩

end Textfile

end MountProbe
