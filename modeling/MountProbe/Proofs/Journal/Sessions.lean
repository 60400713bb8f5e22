import MountProbe.Proofs.Journal.Settled

/-! Writers one after another on the same log. Each finds in the file what the one before it left,
and its size too, so that they leave what a single one leaves that does all of their work. -/
namespace MountProbe.Journal

section

variable {c : Config} {s : Scene} {t : FileTree} {dir : NodeId} {name : Bytes}

theorem Live.atWork (made : parentsMade s.tree c.path = (t, .ok ()))
    (shelf : Shelf t c.path c.maxRotatedFiles dir name) (x : Session) :
    ∃ s' w k, Writer.atWork c [] s x = (s', w) ∧
      Live c dir name s' w k ((linesOf x.orders).foldl (recorded c dir name)
        { s with tree := (opened t dir name).1 }) := by
  obtain ⟨w, k, started, live⟩ := Live.start made shelf x.began
  obtain ⟨s', w', k', obeyed, after⟩ := live.obeyAll x.orders
  exact ⟨s', w', k', by simp only [Writer.atWork, started, obeyed], after⟩

theorem session_eq (made : parentsMade s.tree c.path = (t, .ok ()))
    (shelf : Shelf t c.path c.maxRotatedFiles dir name) (x : Session) :
    ∃ v y d, Writer.session c [] s x = v ∧ Open v.tree c.path c.maxRotatedFiles dir name y d ∧
      v = (linesOf x.orders).foldl (recorded c dir name)
        { s with tree := (opened t dir name).1 } := by
  obtain ⟨s', w, k, worked, live⟩ := Live.atWork made shelf x
  obtain ⟨d, isOpen, -⟩ := live.isOpen
  refine ⟨_, k.file, d, ?_, isOpen, rfl⟩
  simp only [Writer.session, worked, live.finish]

theorem session_of_open {y : NodeId} {d : Bytes}
    (h : Open s.tree c.path c.maxRotatedFiles dir name y d) (x : Session) :
    (∃ z e, Open (Writer.session c [] s x).tree c.path c.maxRotatedFiles dir name z e) ∧
      Writer.session c [] s x = (linesOf x.orders).foldl (recorded c dir name) s := by
  obtain ⟨v, z, e, rfl, isOpen, same⟩ := session_eq h.shelf.parentsMade h.shelf x
  rw [opened_of_entry h.here] at same
  exact ⟨⟨z, e, isOpen⟩, same⟩

theorem sessions_of_open {y : NodeId} {d : Bytes}
    (h : Open s.tree c.path c.maxRotatedFiles dir name y d) (xs : List Session) :
    xs.foldl (Writer.session c []) s =
      (linesOf (xs.flatMap Session.orders)).foldl (recorded c dir name) s := by
  induction xs generalizing s y d with
  | nil => rfl
  | cons x xs ih =>
    obtain ⟨⟨z, e, isOpen⟩, same⟩ := session_of_open h x
    rw [List.foldl_cons, ih isOpen, List.flatMap_cons, linesOf_append, List.foldl_append, ← same]

/-- However the work is cut into sessions, and whenever they begin: in the end there is what one
session leaves that does it all. -/
theorem sessions_are_one (made : parentsMade s.tree c.path = (t, .ok ()))
    (shelf : Shelf t c.path c.maxRotatedFiles dir name) (began : Nat) (first : Session)
    (others : List Session) :
    (first :: others).foldl (Writer.session c []) s =
      Writer.session c [] s ⟨began, (first :: others).flatMap Session.orders⟩ := by
  obtain ⟨v, y, d, done, isOpen, same⟩ := session_eq made shelf first
  obtain ⟨v', -, -, done', -, same'⟩ :=
    session_eq made shelf ⟨began, (first :: others).flatMap Session.orders⟩
  rw [List.foldl_cons, done, sessions_of_open isOpen, done', same', same, List.flatMap_cons,
    linesOf_append, List.foldl_append]

def emptyPlace : FileTree :=
  ⟨#[.dir 0 [] false], 0⟩

/-- A directory with the log "l", which holds one line. -/
def begunLog : FileTree :=
  ⟨#[.dir 0 [([108], 1)] false, .file [10]], 0⟩

def smallLog : Config where
  path := ⟨[108]⟩
  fallback := none
  maxSizeBytes := 1
  maxRotatedFiles := 1
  fsyncSecs := 10

def shortEntry : Entry where
  time := ""
  kind := .error
  severity := .info

theorem logName_one : logName [108] 1 = [108, 46, 49] := by
  rw [logName, ending_eq]
  decide

theorem shelf_smallLog (t : FileTree)
    (listed : ∃ parent es, t.node t.current = .dir parent es false)
    (leads : ∀ i ≤ 1, ∀ x, slot t t.current [108] i = some x → ∃ c, t.contents? x = some c) :
    Shelf t smallLog.path smallLog.maxRotatedFiles t.current [108] := by
  refine shelf_of_plain (fun i low => ?_) listed leads
  rcases Nat.le_one_iff_eq_zero_or_eq_one.mp low with rfl | rfl
  · decide
  · rw [logName_one]
    decide

theorem shelf_begunLog : Shelf begunLog smallLog.path smallLog.maxRotatedFiles 0 [108] := by
  refine shelf_smallLog begunLog ⟨_, _, rfl⟩ fun i low x here => ?_
  rcases Nat.le_one_iff_eq_zero_or_eq_one.mp low with rfl | rfl
  · cases here
    exact ⟨_, rfl⟩
  · rw [slot, logName_one] at here
    cases here

theorem two_sessions_are_one :
    parentsMade begunLog smallLog.path = (begunLog, .ok ()) ∧
      Shelf begunLog smallLog.path smallLog.maxRotatedFiles 0 [108] ∧
      [(⟨0, [.entry 0 shortEntry]⟩ : Session), ⟨5, [.entry 6 shortEntry, .flush]⟩].foldl
          (Writer.session smallLog []) ⟨begunLog, ""⟩ =
        Writer.session smallLog [] ⟨begunLog, ""⟩
          ⟨0, [.entry 0 shortEntry, .entry 6 shortEntry, .flush]⟩ :=
  ⟨shelf_begunLog.parentsMade, shelf_begunLog,
    sessions_are_one shelf_begunLog.parentsMade shelf_begunLog 0 _ _⟩

end

end MountProbe.Journal
