import MountProbe.Proofs.FileTree.Agreeing
import MountProbe.Proofs.FileTree.Publishing

namespace MountProbe.Textfile

open FileTree (Agree Alike Routes ending)

/-- What the system refuses on the way, whatever the tree is like. -/
structure Refusals where
  making : Option IoFault
  opening : Option IoFault
  /-- After so many bytes. -/
  writing : Option (Nat × Errno)
  syncing : Option Errno
  moving : Option IoFault

namespace Refusals

def nothing : Refusals :=
  ⟨none, none, none, none, none⟩

variable (r : Refusals)

def publish (p : Path) (t : FileTree) (i : NodeId) : List FileTree × Except Failure Unit :=
  match r.syncing.elim (t.sync i) .error with
  | .error e => abandon p t (.os e)
  | .ok () =>
    match r.moving.elim (t.rename (temporary p) p) .error with
    | .error fault => abandon p t fault
    | .ok t' => ([t'], .ok ())

/-- What is written before a write is refused. -/
def accepted (contents : Bytes) : Bytes :=
  match r.writing with
  | none => contents
  | some (count, _) => contents.take count

def finish (p : Path) (t : FileTree) (i : NodeId) : List FileTree × Except Failure Unit :=
  match r.writing with
  | none => r.publish p t i
  | some (_, e) => abandon p t (.os e)

def fill (p : Path) (contents : Bytes) (t : FileTree) (i : NodeId) :
    List FileTree × Except Failure Unit :=
  let opened := t.truncate i
  match opened.append i (r.accepted contents) with
  | .error e =>
    let (later, result) := abandon p opened (.os e)
    (opened :: later, result)
  | .ok written =>
    let (later, result) := r.finish p written i
    (opened :: written :: later, result)

def replace (p : Path) (contents : Bytes) (t : FileTree) : List FileTree × Except Failure Unit :=
  match r.opening.elim (t.openFile (temporary p)) .error with
  | .error fault => abandon p t fault
  | .ok (t, i) => r.fill p contents t i

theorem fill_ne_nil (p : Path) (contents : Bytes) (t : FileTree) (i : NodeId) :
    (r.fill p contents t i).1 ≠ [] := by
  rw [fill]
  dsimp only
  split <;> exact List.cons_ne_nil _ _

/-- A run in which the system refuses what is not forbidden by the tree. -/
def run (t : FileTree) (p : Path) (contents : Bytes) : Run :=
  match p.parent? with
  | none => let (states, result) := r.replace p contents t; ⟨states, result⟩
  | some above =>
    match r.making with
    | some fault => ⟨[t], .error (.io above fault)⟩
    | none =>
      match t.makeAll above with
      | (t', .error fault) => ⟨[t'], .error (.io above fault)⟩
      | (t', .ok ()) => let (states, result) := r.replace p contents t'; ⟨t' :: states, result⟩

theorem replace_nothing (p : Path) (contents : Bytes) (t : FileTree) :
    nothing.replace p contents t = Textfile.replace p contents t := rfl

theorem run_nothing (t : FileTree) (p : Path) (contents : Bytes) :
    nothing.run t p contents = Textfile.run t p contents := by
  rw [run, Textfile.run]
  simp only [replace_nothing]
  rfl

end Refusals

/-- A link that stands at the path is not needed to get there. -/
def Clear (p : Path) (t : FileTree) : Prop :=
  ∀ d n i target, t.spotOf p = .ok (.entry d n) → t.entry? d n = some i →
    t.node i = .link target → (t.dropEntry d n).spotOf p = .ok (.entry d n)

/-- What a tree is like in which a text can be published so that no reader finds a part of it. -/
structure Fit (p : Path) (t : FileTree) : Prop where
  sound : t.Sound
  no_link : NoLink p t
  /-- The path does not lead to the file beside it. -/
  apart : ∀ u i, t.openFile (temporary p) = .ok (u, i) → u.find p ≠ .ok i
  clear : Clear p t

/-- The file beside is there, and nothing else has changed. -/
structure Prepared (p : Path) (e : NodeId) (m : Bytes) (i : NodeId) (t u : FileTree) : Prop where
  spot : t.spotOf (temporary p) = .ok (.entry e m)
  agree : Agree i t u
  entry : u.entry? e m = some i
  before : t.find p ≠ .ok i
  after : u.find p ≠ .ok i

/-- What a reader finds at the path in the course of a run is old or new, and at the end it is what
the result says. -/
structure Whole (p : Path) (c : Bytes) (t : FileTree) (states : List FileTree)
    (result : Except Failure Unit) : Prop where
  each : ∀ u ∈ states, u.lookup p = t.lookup p ∨ u.lookup p = some (.ok c)
  done : result = .ok () → (states.getLastD t).lookup p = some (.ok c) ∧
    (states.getLastD t).lookup (temporary p) = none
  failed : ∀ f, result = .error f → (states.getLastD t).lookup p = t.lookup p ∧
    ∃ fault, f = .io p fault ∧ ∀ b, (states.getLastD t).lookup (temporary p) ≠ some (.ok b)

section

variable {t u v w : FileTree} {p : Path} {d e i j : NodeId} {n m c b : Bytes}
  {states : List FileTree} {result : Except Failure Unit}

theorem Whole.cons (later : Whole p c u states result) (same : u.lookup p = t.lookup p) :
    Whole p c t (u :: states) result := by
  have last : (u :: states).getLastD t = states.getLastD u := List.getLastD_cons
  refine ⟨fun v member => ?_, fun done => ?_, fun f failed => ?_⟩
  · rcases List.mem_cons.mp member with rfl | member
    · exact .inl same
    · rw [← same]
      exact later.each v member
  · rw [last]
    exact later.done done
  · rw [last, ← same]
    exact later.failed f failed

theorem Whole.rebase (whole : Whole p c u states result) (same : u.lookup p = t.lookup p)
    (some : states ≠ []) : Whole p c t states result := by
  have last : states.getLastD t = states.getLastD u := by
    rw [List.getLastD_eq_getLast?, List.getLastD_eq_getLast?,
      List.getLast?_eq_some_getLast some, Option.getD_some, Option.getD_some]
  refine ⟨?_, ?_, ?_⟩
  · rw [← same]
    exact whole.each
  · rw [last]
    exact whole.done
  · rw [last, ← same]
    exact whole.failed

theorem leadsOn_dropEntry : (t.dropEntry d n).LeadsOn i ↔ t.LeadsOn i := by
  have alike := FileTree.alike_dropEntry (i + 1) t d n
  have other : i ≠ i + 1 := Nat.ne_of_lt (Nat.lt_succ_self i)
  rw [FileTree.LeadsOn, FileTree.LeadsOn, alike.dirs]
  exact or_congr Iff.rfl (exists_congr fun target =>
    ⟨alike.link_of_ne other, alike.symm.link_of_ne other⟩)

theorem find_of_agree (agree : Agree i t u)
    (entries : ∀ d n, t.entry? d n = some i → u.entry? d n = some i) (found : t.find p = .ok i) :
    u.find p = .ok i :=
  FileTree.find_of_routes agree.current agree.routes entries
    (fun target link => absurd (.inr ⟨target, link⟩) agree.ends.2) found

theorem Prepared.set (prepared : Prepared p e m i t u) (there : u.contents? i = some b)
    (c : Bytes) : Prepared p e m i t (u.setNode i (.file c)) := by
  have agree := FileTree.agree_setFile there c
  refine ⟨prepared.spot, prepared.agree.trans agree,
    (FileTree.entry?_setFile there c).trans prepared.entry, prepared.before, fun found => ?_⟩
  apply prepared.after
  apply find_of_agree agree.symm _ found
  intro d n entry
  rwa [FileTree.entry?_setFile there] at entry

theorem Prepared.lookup (prepared : Prepared p e m i t u) : u.lookup p = t.lookup p :=
  prepared.agree.lookup prepared.before prepared.after

/-- A run that is given up takes the file beside away. -/
theorem Prepared.abandoned (prepared : Prepared p e m i t u) (fault : IoFault) :
    Whole p c u (abandon p u fault).1 (abandon p u fault).2 := by
  have source := prepared.agree.spotOf_eq_ok.mpr prepared.spot
  have ends := prepared.agree.ends.2
  have no_dir : u.isDirNode i = false := by
    by_contra is_dir
    exact ends (.inl (by simpa using is_dir))
  have removed := remove_of_spot (no_slash_temporary p) source prepared.entry no_dir
  have agree : Agree i u (u.dropEntry e m) := by
    apply FileTree.agree_dropEntry ends
    intro j entry
    exact Option.some.inj (entry.symm.trans prepared.entry)
  have after : (u.dropEntry e m).find p ≠ .ok i := by
    intro found
    apply prepared.after
    apply find_of_agree agree.symm _ found
    intro d n entry
    rw [FileTree.entry?_dropped] at entry
    split at entry
    · cases entry
    · exact entry
  have same := agree.lookup prepared.after after
  have gone : (u.dropEntry e m).lookup (temporary p) = none :=
    FileTree.lookup_of_missing (no_slash_temporary p) (agree.spotOf_eq_ok.mpr source)
      (by rw [FileTree.entry?_dropped, if_pos ⟨rfl, rfl⟩])
  simp only [abandon, removed]
  refine ⟨?_, ?_, ?_⟩
  · intro v member
    rw [List.mem_singleton.mp member]
    exact .inl same
  · intro done
    cases done
  · intro f failed
    cases failed
    refine ⟨same, fault, rfl, fun b => ?_⟩
    change (u.dropEntry e m).lookup (temporary p) ≠ _
    simp [gone]

theorem whole_of_nothing {fault fault' : IoFault} (refused : t.remove (temporary p) = .error fault')
    (nothing : ∀ b, t.lookup (temporary p) ≠ some (.ok b)) :
    Whole p c t (abandon p t fault).1 (abandon p t fault).2 := by
  simp only [abandon, refused]
  refine ⟨by simp, by simp, ?_⟩
  intro f failed
  cases failed
  exact ⟨rfl, fault, rfl, nothing⟩

theorem Fit.prepared_there (fit : Fit p t) (found : t.spotOf (temporary p) = .ok (.entry e m))
    (entry : t.entry? e m = some i)
    (node : (∃ c, t.contents? i = some c) ∨ t.node i = .full) :
    t.openFile (temporary p) = .ok (t, i) ∧ Prepared p e m i t t := by
  have opened := openFile_there found entry node
  have ends : ¬ t.LeadsOn i := by
    rcases node with ⟨c, there⟩ | full
    · exact FileTree.not_leadsOn_of_contents there
    · exact FileTree.not_leadsOn_of_full full
  have apart := fit.apart t i opened
  exact ⟨opened, found, .refl ends, entry, apart, apart⟩

theorem Fit.prepared_new {parent : NodeId} {es : List (Bytes × NodeId)} (fit : Fit p t)
    (found : t.spotOf (temporary p) = .ok (.entry e m)) (missing : t.entry? e m = none)
    (listed : t.node e = .dir parent es false) :
    t.openFile (temporary p) = .ok (t.withFile e m, t.nodes.size) ∧
      Prepared p e m t.nodes.size t (t.withFile e m) ∧
      (t.withFile e m).contents? t.nodes.size = some [] := by
  have opened := FileTree.openFile_of_missing (no_slash_temporary p) found listed missing
  have agree : Agree t.nodes.size t (t.withFile e m) := FileTree.agree_withFile listed
  have apart := fit.apart _ _ opened
  refine ⟨opened, ⟨found, agree, ?_, fun before => apart ?_, apart⟩, ?_⟩
  · rw [FileTree.entry?_withFile listed, missing, if_pos rfl, Option.none_or]
  · apply find_of_agree agree _ before
    intro d n entry
    by_cases own : d = e
    · subst own
      rw [FileTree.entry?_withFile listed, entry, Option.some_or]
    · rw [FileTree.entry?_withFile_ne listed own, entry]
  · rw [FileTree.contents?_withFile listed, if_pos rfl]

theorem Fit.abandoned (fit : Fit p t) (fault : IoFault) :
    Whole p c t (abandon p t fault).1 (abandon p t fault).2 := by
  cases atBeside_of_no_link fit.sound fit.no_link with
  | nothing _ refused nothing =>
    obtain ⟨fault', refused⟩ := refused
    exact whole_of_nothing refused nothing
  | missing found missing listed =>
    have refused : t.remove (temporary p) = .error (.os .noEntry) := by
      rw [FileTree.remove, found]
      simp only [bind, Except.bind, missing]
    apply whole_of_nothing refused
    simp [FileTree.lookup_of_missing (no_slash_temporary p) found missing]
  | there found entry node => exact (fit.prepared_there found entry node).2.abandoned fault

/-- A file beside that could be renamed is what stood at the path, or stands where no directory
was. -/
theorem renamed_cases (source : w.spotOf (temporary p) = .ok (.entry e m))
    (entry : w.entry? e m = some i) (no_dir : w.isDirNode i = false)
    (renamed : w.rename (temporary p) p = .ok v) : ∃ d n, p.raw.getLast? ≠ some Path.slash ∧
      w.spotOf p = .ok (.entry d n) ∧ (w.entry? d n = some i ∧ v = w ∨
        v = w.move e m d n i ∧ ∀ o, w.entry? d n = some o → w.isDirNode o = false) := by
  unfold FileTree.rename at renamed
  obtain ⟨spot, at_source, renamed⟩ := bind_eq_ok.mp renamed
  obtain ⟨target, at_target, renamed⟩ := bind_eq_ok.mp renamed
  rw [source] at at_source
  cases at_source
  cases target with
  | here d => cases renamed
  | entry d n =>
    simp only [entry, no_dir] at renamed
    split at renamed
    · cases renamed
    · rename_i open_end
      have no_slash : p.raw.getLast? ≠ some Path.slash := by
        intro slash
        simp [slash] at open_end
      refine ⟨d, n, no_slash, at_target, ?_⟩
      split at renamed
      · rename_i same
        cases renamed
        exact .inl ⟨by simpa using same, rfl⟩
      · right
        rw [if_neg (by simp)] at renamed
        cases old : w.entry? d n with
        | none =>
          rw [old] at renamed
          cases renamed
          exact ⟨rfl, by simp⟩
        | some o =>
          rw [old, Option.map_some] at renamed
          cases at_o : w.isDirNode o with
          | true => simp [at_o] at renamed
          | false =>
            simp only [at_o, Bool.false_eq_true, if_false] at renamed
            cases renamed
            refine ⟨rfl, fun o' same => ?_⟩
            cases same
            exact at_o

theorem Clear.spotOf_dropEntry (clear : Clear p t) (ends : ¬ t.LeadsOn i)
    (found : t.spotOf p = .ok (.entry d n))
    (no_dir : ∀ o, t.entry? d n = some o → t.isDirNode o = false) :
    (t.dropEntry d n).spotOf p = .ok (.entry d n) := by
  by_cases at_link : ∃ o target, t.entry? d n = some o ∧ t.node o = .link target
  · obtain ⟨o, target, entry, link⟩ := at_link
    exact clear d n o target found entry link
  · have alike := FileTree.alike_dropEntry i t d n
    apply FileTree.spotOf_of_routes alike.current _ found
    apply alike.routes ends
    intro x y child entry on
    rw [FileTree.entry?_dropped, if_neg, entry]
    rintro ⟨rfl, rfl⟩
    rcases on with is_dir | ⟨target, link⟩
    · rw [no_dir child entry] at is_dir
      cases is_dir
    · exact at_link ⟨child, target, entry, link⟩

/-- The path is looked up the same after the file beside took its place. -/
theorem Clear.spotOf_moved (clear : Clear p t) (agree : Agree i t w)
    (entry : w.entry? d m = some i) (there : w.contents? i = some c) (is_dir : w.isDirNode d = true)
    (target : w.spotOf p = .ok (.entry d n))
    (no_dir : ∀ o, w.entry? d n = some o → w.isDirNode o = false) :
    (w.move d m d n i).spotOf p = .ok (.entry d n) := by
  have ends : ¬ (t.dropEntry d n).LeadsOn i := fun on => agree.ends.1 (leadsOn_dropEntry.mp on)
  have no_dir' : ∀ o, t.entry? d n = some o → t.isDirNode o = false := by
    intro o old
    by_cases own : o = i
    · by_contra on
      exact agree.ends.1 (.inl (by simpa [own] using on))
    · rw [← agree.dirs o]
      exact no_dir o ((agree.entries d n o own).mpr old)
  have cleared := clear.spotOf_dropEntry agree.ends.1 (agree.spotOf_eq_ok.mp target) no_dir'
  have alike : Alike i (t.dropEntry d n) (w.move d m d n i) :=
    ((FileTree.alike_dropEntry i t d n).symm.trans agree.toAlike).trans (FileTree.alike_move there)
  apply FileTree.spotOf_of_routes alike.current _ cleared
  apply alike.routes ends
  intro x y child old on
  have other : child ≠ i := by
    rintro rfl
    exact ends on
  rw [FileTree.entry?_dropped] at old
  split at old
  · cases old
  · rename_i elsewhere
    have kept := (agree.entries x y child other).mpr old
    rw [FileTree.entry?_move is_dir there, if_neg elsewhere, if_neg, kept]
    rintro ⟨rfl, rfl⟩
    rw [entry] at kept
    exact other (Option.some.inj kept).symm

theorem Prepared.renamed (fit : Fit p t) (prepared : Prepared p e m i t w)
    (there : w.contents? i = some c) (renamed : w.rename (temporary p) p = .ok v) :
    v.lookup p = some (.ok c) ∧ v.lookup (temporary p) = none := by
  have agree := prepared.agree
  have source := agree.spotOf_eq_ok.mpr prepared.spot
  obtain ⟨d, n, no_slash, target, ⟨same, -⟩ | ⟨rfl, no_dir⟩⟩ :=
    renamed_cases source prepared.entry (FileTree.isDirNode_of_contents there) renamed
  · exact absurd (FileTree.find_of_entry no_slash target same there) prepared.after
  obtain ⟨is_dir, beside⟩ := FileTree.spotOf_temporary no_slash target
  obtain ⟨rfl, rfl⟩ : d = e ∧ m = n ++ ending := by
    cases beside _ source
    exact ⟨rfl, rfl⟩
  have spot := Clear.spotOf_moved fit.clear agree prepared.entry there is_dir target no_dir
  obtain ⟨entry, holds⟩ := move_lands (m := n ++ ending) (n := n) is_dir there
  constructor
  · exact FileTree.lookup_of_entry no_slash spot entry holds
  · apply FileTree.lookup_of_no_find
    intro k found
    obtain ⟨other, at_beside, some_entry⟩ := FileTree.spotOf_of_find found
    cases (FileTree.spotOf_temporary no_slash spot).2 other at_beside
    have still := some_entry d (n ++ ending) rfl
    rw [FileTree.entry?_move is_dir there, if_neg fun both => ne_ending n both.2.symm,
      if_pos ⟨rfl, rfl⟩] at still
    cases still

variable (r : Refusals)

theorem Refusals.publish_cases (node : w.contents? i = some c ∨ w.node i = .full) :
    (∃ fault, r.publish p w i = abandon p w fault) ∨
      ∃ v, w.contents? i = some c ∧ w.rename (temporary p) p = .ok v ∧
        r.publish p w i = ([v], .ok ()) := by
  rw [Refusals.publish]
  split
  · exact .inl ⟨_, rfl⟩
  · rename_i synced
    split
    · exact .inl ⟨_, rfl⟩
    · rename_i v renamed
      have there : w.contents? i = some c := by
        rcases node with there | full
        · exact there
        · cases refused : r.syncing <;> simp [refused, FileTree.sync, full] at synced
      have renamed' : w.rename (temporary p) p = .ok v := by
        cases refused : r.moving with
        | none => simpa [refused] using renamed
        | some fault => simp [refused] at renamed
      exact .inr ⟨v, there, renamed', rfl⟩

theorem append_of_full (full : u.node i = .full) (appended : u.append i c = .ok w) : w = u := by
  unfold FileTree.append at appended
  split at appended
  · cases appended
    rfl
  · rw [full] at appended
    cases appended

/-- A file is emptied and takes what is accepted; a device keeps nothing, and may refuse to. -/
inductive Refusals.Fills (r : Refusals) (p : Path) (c : Bytes) (u : FileTree) (i : NodeId) :
    List FileTree × Except Failure Unit → Prop where
  | file {old : Bytes} (there : u.contents? i = some old) :
    Fills r p c u i (u.setNode i (.file []) :: u.setNode i (.file (r.accepted c)) ::
      (r.finish p (u.setNode i (.file (r.accepted c))) i).1,
      (r.finish p (u.setNode i (.file (r.accepted c))) i).2)
  | refused (fault : IoFault) (full : u.node i = .full) :
    Fills r p c u i (u :: (abandon p u fault).1, (abandon p u fault).2)
  | device (full : u.node i = .full) :
    Fills r p c u i (u :: u :: (r.finish p u i).1, (r.finish p u i).2)

theorem Refusals.fills (node : (∃ old, u.contents? i = some old) ∨ u.node i = .full) :
    r.Fills p c u i (r.fill p c u i) := by
  rw [Refusals.fill]
  rcases node with ⟨old, there⟩ | full
  · have emptied : u.truncate i = u.setNode i (.file []) := by
      rw [FileTree.truncate, FileTree.node_of_contents there]
    have appended := truncate_append ⟨old, there⟩ (r.accepted c)
    rw [emptied] at appended
    simp only [emptied, appended]
    exact .file there
  · have same : u.truncate i = u := by
      rw [FileTree.truncate, full]
    simp only [same]
    split
    · exact .refused _ full
    · rename_i w appended
      rw [append_of_full full appended]
      exact .device full

theorem Prepared.published (fit : Fit p t) (prepared : Prepared p e m i t w)
    (node : w.contents? i = some c ∨ w.node i = .full) :
    Whole p c w (r.publish p w i).1 (r.publish p w i).2 := by
  rcases r.publish_cases node with ⟨fault, given_up⟩ | ⟨v, there, renamed, done⟩
  · rw [given_up]
    exact prepared.abandoned fault
  · rw [done]
    obtain ⟨new, gone⟩ := prepared.renamed fit there renamed
    refine ⟨?_, fun _ => ⟨new, gone⟩, by simp⟩
    intro u member
    rw [List.mem_singleton.mp member]
    exact .inr new

theorem Prepared.finished (fit : Fit p t) (prepared : Prepared p e m i t w)
    (node : w.contents? i = some (r.accepted c) ∨ w.node i = .full) :
    Whole p c w (r.finish p w i).1 (r.finish p w i).2 := by
  rw [Refusals.finish]
  rw [Refusals.accepted] at node
  split
  · rename_i all
    rw [all] at node
    exact prepared.published r fit node
  · exact prepared.abandoned _

theorem Prepared.filled (fit : Fit p t) (prepared : Prepared p e m i t u)
    (node : (∃ c, u.contents? i = some c) ∨ u.node i = .full) :
    Whole p c u (r.fill p c u i).1 (r.fill p c u i).2 := by
  have fills := r.fills (c := c) (p := p) node
  generalize r.fill p c u i = outcome at fills ⊢
  cases fills with
  | file there =>
    have opened := prepared.set there []
    have written := prepared.set there (r.accepted c)
    have holds : (u.setNode i (.file (r.accepted c))).contents? i = some (r.accepted c) :=
      FileTree.contents?_eq_some.mpr
        (FileTree.getElem?_setNode_self (FileTree.lt_of_contents there))
    have finished := written.finished r fit (.inl holds)
    exact (finished.cons (written.lookup.trans opened.lookup.symm)).cons
      (opened.lookup.trans prepared.lookup.symm)
  | refused fault _ => exact (prepared.abandoned fault).cons rfl
  | device full => exact ((prepared.finished r fit (.inr full)).cons rfl).cons rfl

theorem Fit.replaced (fit : Fit p t) (c : Bytes) :
    Whole p c t (r.replace p c t).1 (r.replace p c t).2 := by
  rw [Refusals.replace]
  cases r.opening with
  | some fault => exact fit.abandoned fault
  | none =>
    rw [Option.elim_none]
    cases atBeside_of_no_link fit.sound fit.no_link with
    | nothing refused _ _ =>
      cases opened : t.openFile (temporary p) with
      | error fault => exact fit.abandoned fault
      | ok x => exact absurd opened (refused x.1 x.2)
    | missing found missing listed =>
      obtain ⟨opened, prepared, empty⟩ := fit.prepared_new found missing listed
      rw [opened]
      exact (prepared.filled r fit (.inl ⟨[], empty⟩)).rebase prepared.lookup (r.fill_ne_nil _ _ _ _)
    | there found entry node =>
      obtain ⟨opened, prepared⟩ := fit.prepared_there found entry node
      rw [opened]
      exact prepared.filled r fit node

end

end MountProbe.Textfile
