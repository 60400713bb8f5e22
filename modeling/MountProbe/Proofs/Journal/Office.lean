import Mathlib.Algebra.GroupWithZero.Nat
import MountProbe.Journal.Clerk
import MountProbe.Proofs.Journal.Sessions

/-! Where each event is that was sent to the logger, whichever thread goes next. What was accepted
is recorded, in the clerk's hand or waiting, in the order in which it was sent; what was refused is
in a line of the log, in the count, or not counted yet. -/
namespace MountProbe.Journal

def Act.accepted? : Act → Option Parcel
  | .accepted p => some p
  | .toldToStop i => some (i, .shutdown)
  | _ => none

def Act.refused? : Act → Option Parcel
  | .refused p => some p
  | _ => none

/-- The event that a sender sent, whatever became of it. -/
def Act.sent? : Act → Option Parcel
  | .accepted p | .refused p | .unheard p => some p
  | .toldToStop i => some (i, .shutdown)
  | _ => none

def Act.recorded? : Act → Option Parcel
  | .recorded _ p _ => some p
  | _ => none

/-- The number in a line about dropped events. -/
def Act.reported? : Act → Option Nat
  | .reported _ n => some n
  | _ => none

/-- What the clerk tells the writer. -/
def Act.order? : Act → Option Order
  | .reported ms n => some (.entry (ms / 1000) (droppedEntry (stamp ms) n))
  | .recorded ms _ e => some (.entry (ms / 1000) e)
  | _ => none

/-- The event that the clerk has received and is not done with. -/
def Clerk.parcel? : Clerk → Option Parcel
  | .holding p | .reporting _ p | .recording p => some p
  | .closing last => last
  | .listening | .gone => none

/-- How many dropped events the clerk is about to write down. -/
def Clerk.announcing : Clerk → Nat
  | .reporting n _ => n
  | _ => 0

def Sender.isRefused : Sender → Bool
  | .refused _ => true
  | _ => false

namespace Office

def sent (es : List Act) : List Parcel :=
  es.filterMap Act.sent?

def accepted (es : List Act) : List Parcel :=
  es.filterMap Act.accepted?

def refused (es : List Act) : List Parcel :=
  es.filterMap Act.refused?

def recorded (es : List Act) : List Parcel :=
  es.filterMap Act.recorded?

def reported (es : List Act) : List Nat :=
  es.filterMap Act.reported?

def orders (es : List Act) : List Order :=
  es.filterMap Act.order?

/-- How many senders were refused and have not counted it. -/
def uncounted (senders : List Sender) : Nat :=
  senders.countP Sender.isRefused

variable {o d : Office} {es : List Act} {e : Act}

theorem filterMap_snoc {α β : Type} (f : α → Option β) (xs : List α) (x : α) :
    (xs ++ [x]).filterMap f = xs.filterMap f ++ (f x).toList := by
  cases h : f x <;> simp [h]

theorem uncounted_set {xs : List Sender} {i : Nat} {x : Sender} (here : xs[i]? = some x)
    (y : Sender) :
    uncounted (xs.set i y) + (if x.isRefused then 1 else 0) =
      uncounted xs + (if y.isRefused then 1 else 0) := by
  obtain ⟨inside, rfl⟩ := List.getElem?_eq_some_iff.mp here
  have counted : (if xs[i].isRefused then 1 else 0) ≤ xs.countP Sender.isRefused :=
    List.boole_getElem_le_countP inside
  rw [uncounted, List.countP_set inside, uncounted]
  omega

theorem uncounted_same {xs : List Sender} {i : Nat} {x : Sender} (here : xs[i]? = some x)
    (y : Sender) (same : y.isRefused = x.isRefused) : uncounted (xs.set i y) = uncounted xs := by
  have balance := uncounted_set here y
  rw [same] at balance
  exact Nat.add_right_cancel balance

theorem Step.alive (step : Step o e d) (alive : d.clerk ≠ .gone) : o.clerk ≠ .gone := by
  intro gone
  cases step <;> simp_all

theorem Step.settings (step : Step o e d) : d.capacity = o.capacity ∧ d.least = o.least := by
  cases step <;> exact ⟨rfl, rfl⟩

/-- What the books of a logger show: where the accepted events are, and the refused ones. -/
structure Books (first : Office) (es : List Act) (o : Office) : Prop where
  in_turn : accepted es = recorded es ++ o.clerk.parcel?.toList ++ o.waiting
  counted : (refused es).length =
    (reported es).sum + o.clerk.announcing + o.dropped + uncounted o.senders
  written : (o.scene, o.writer) = first.writer.obeyAll first.scene (orders es)
  room : o.waiting.length ≤ o.capacity

theorem step_in_turn (h : accepted es = recorded es ++ o.clerk.parcel?.toList ++ o.waiting)
    (step : Step o e d) (alive : d.clerk ≠ .gone) :
    accepted (es ++ [e]) = recorded (es ++ [e]) ++ d.clerk.parcel?.toList ++ d.waiting := by
  simp only [accepted, recorded, filterMap_snoc] at h ⊢
  rw [h]
  cases step with
  | received listening first =>
    simp [Act.accepted?, Act.recorded?, Clerk.parcel?, listening, first]
  | swapped holding =>
    split <;> simp [Act.accepted?, Act.recorded?, Clerk.parcel?, holding]
  | reported phase _ | recorded phase _ _ | stopped _ phase _ | ended phase _ _ =>
    simp [Act.accepted?, Act.recorded?, Clerk.parcel?, phase]
  | exited => exact (alive rfl).elim
  | _ => simp [Act.accepted?, Act.recorded?]

theorem step_counted
    (h : (refused es).length =
      (reported es).sum + o.clerk.announcing + o.dropped + uncounted o.senders)
    (step : Step o e d) :
    (refused (es ++ [e])).length =
      (reported (es ++ [e])).sum + d.clerk.announcing + d.dropped + uncounted d.senders := by
  simp only [refused, reported, filterMap_snoc, List.length_append, List.sum_append] at h ⊢
  -- A drop goes from its sender to the count, from there to the clerk, from the clerk to a line.
  cases step with
  | left here | asked here | toldToStop here _ _ | askedNobody here _ =>
    simp only [Act.refused?, Act.reported?, Option.toList, List.length_nil, List.sum_nil] at h ⊢
    rw [uncounted_same here]
    · exact h
    · rfl
  | @refused i x here takes heard full =>
    have one_more : uncounted (o.senders.set i (.refused x)) = uncounted o.senders + 1 :=
      uncounted_set here (.refused x)
    simp only [Act.refused?, Act.reported?, Option.toList, List.length_singleton,
      List.sum_nil, one_more]
    omega
  | @counted i x here =>
    have one_less : uncounted (o.senders.set i .idle) + 1 = uncounted o.senders :=
      uncounted_set here .idle
    simp only [Act.refused?, Act.reported?, Option.toList, List.length_nil, List.sum_nil]
    omega
  | copied =>
    simpa [Act.refused?, Act.reported?, uncounted, Sender.isRefused] using h
  | swapped holding =>
    split <;> simp_all [Act.refused?, Act.reported?, Clerk.announcing]
  | reported phase _ =>
    simp [Act.refused?, Act.reported?, Clerk.announcing, phase] at h ⊢
    omega
  | received phase _ | recorded phase _ _ | stopped _ phase _ | ended phase _ _ | exited _ phase =>
    simpa [Act.refused?, Act.reported?, Clerk.announcing, phase] using h
  | _ => simpa [Act.refused?, Act.reported?] using h

theorem obeyAll_entry (o : Office) (ms : Nat) (x : Entry) :
    o.writer.obeyAll o.scene [.entry (ms / 1000) x] = o.write ms x := rfl

theorem step_written {first : Office}
    (h : (o.scene, o.writer) = first.writer.obeyAll first.scene (orders es))
    (step : Step o e d) (alive : d.clerk ≠ .gone) :
    (d.scene, d.writer) = first.writer.obeyAll first.scene (orders (es ++ [e])) := by
  rw [orders, filterMap_snoc, Writer.obeyAll_append, ← orders, ← h]
  cases step with
  | reported _ written | recorded _ _ written => exact ((obeyAll_entry ..).trans written).symm
  | exited => exact (alive rfl).elim
  | _ => rfl

theorem step_room (h : o.waiting.length ≤ o.capacity) (step : Step o e d) :
    d.waiting.length ≤ d.capacity := by
  cases step with
  | accepted _ _ _ room | toldToStop _ _ room =>
    rw [List.length_append]
    exact room
  | received _ first =>
    rw [first, List.length_cons] at h
    exact Nat.le_of_succ_le h
  | exited => exact Nat.zero_le _
  | _ => exact h

theorem Books.step {first : Office} (h : Books first es o) (step : Step o e d)
    (alive : d.clerk ≠ .gone) : Books first (es ++ [e]) d where
  in_turn := step_in_turn h.in_turn step alive
  counted := step_counted h.counted step
  written := step_written h.written step alive
  room := step_room h.room step

theorem books_start (s : Scene) (c : LoggerConfig) (ms : Nat) :
    Books (start s c ms) [] (start s c ms) where
  in_turn := rfl
  counted := rfl
  written := rfl
  room := Nat.zero_le _

theorem Run.books {first : Office} (run : Run first es o) (begun : Books first [] first)
    (alive : o.clerk ≠ .gone) : Books first es o := by
  induction run with
  | refl => exact begun
  | step _ step ih => exact (ih (step.alive alive)).step step alive

theorem Run.settings {first : Office} (run : Run first es o) :
    o.capacity = first.capacity ∧ o.least = first.least := by
  induction run with
  | refl => exact ⟨rfl, rfl⟩
  | step _ step ih => exact ⟨step.settings.1.trans ih.1, step.settings.2.trans ih.2⟩

theorem Run.heard {first : Office} (run : Run first es o) (alive : o.clerk ≠ .gone) (p : Parcel) :
    .unheard p ∉ es := by
  induction run with
  | refl => exact List.not_mem_nil
  | step _ step ih =>
    intro member
    rcases List.mem_append.mp member with before | last
    · exact ih (step.alive alive) before
    · obtain rfl := List.mem_singleton.mp last
      cases step with
      | unheard _ _ gone => exact alive gone

theorem Run.mild {first : Office} (run : Run first es o) {p : Parcel} (member : .ignored p ∈ es) :
    p.2.severity.rank < o.least.rank := by
  induction run with
  | refl => cases member
  | step _ step ih =>
    rcases List.mem_append.mp member with before | last
    · exact step.settings.2.symm ▸ ih before
    · obtain rfl := List.mem_singleton.mp last
      cases step with
      | ignored _ mild => exact Nat.lt_of_not_le (of_decide_eq_false mild)

theorem Run.entry {first : Office} (run : Run first es o) {ms : Nat} {p : Parcel} {x : Entry}
    (member : .recorded ms p x ∈ es) : Event.entry? (stamp ms) p.2 = some x := by
  induction run with
  | refl => cases member
  | step _ step ih =>
    rcases List.mem_append.mp member with before | last
    · exact ih before
    · obtain rfl := List.mem_singleton.mp last
      cases step with
      | recorded _ entry _ => exact entry

theorem sent_perm (heard : ∀ p, .unheard p ∉ es) : (sent es).Perm (accepted es ++ refused es) := by
  induction es with
  | nil => exact .nil
  | cons e es ih =>
    have rest := ih fun p member => heard p (List.mem_cons_of_mem e member)
    simp only [sent, accepted, refused, List.filterMap_cons] at rest ⊢
    cases e with
    | accepted | toldToStop => exact rest.cons _
    | refused => exact (rest.cons _).trans List.perm_middle.symm
    | unheard p => exact (heard p List.mem_cons_self).elim
    | _ => exact rest

theorem accepted_sublist (es : List Act) : (accepted es).Sublist (sent es) := by
  induction es with
  | nil => exact .slnil
  | cons e es ih =>
    simp only [sent, accepted, List.filterMap_cons] at ih ⊢
    cases e with
    | accepted | toldToStop => exact ih.cons_cons _
    | refused | unheard => exact ih.cons _
    | _ => exact ih

/-- Each event that was sent is in one place, and each one that was dropped is counted once. -/
structure Kept (s : Scene) (c : LoggerConfig) (began : Nat) (es : List Act) (o : Office) :
    Prop where
  heard : ∀ p, .unheard p ∉ es
  mild : ∀ p, .ignored p ∈ es →
    p.2.severity.rank < (if c.verbose then Severity.debug else .info).rank
  apart : (sent es).Perm (recorded es ++ o.clerk.parcel?.toList ++ o.waiting ++ refused es)
  /-- What one sender sent is recorded in the order in which it was sent. -/
  in_turn : ∀ i, ((recorded es ++ o.clerk.parcel?.toList ++ o.waiting).filter (·.1 == i)).Sublist
    ((sent es).filter (·.1 == i))
  room : o.waiting.length ≤ max c.capacity 1
  dropped : (refused es).length =
    (reported es).sum + o.clerk.announcing + o.dropped + uncounted o.senders
  entry : ∀ ms p x, .recorded ms p x ∈ es → Event.entry? (stamp ms) p.2 = some x
  /-- The writer has got the entries of the recorded events and the counts, each once. -/
  written : (o.scene, o.writer) = Writer.atWork c.journal [] s ⟨began / 1000, orders es⟩

theorem events_kept {s : Scene} {c : LoggerConfig} {ms : Nat} (run : Run (start s c ms) es o)
    (alive : o.clerk ≠ .gone) : Kept s c ms es o := by
  have books := run.books (books_start s c ms) alive
  have heard := run.heard alive
  have conserved := sent_perm heard
  rw [books.in_turn] at conserved
  have capacity : o.capacity = max c.capacity 1 := run.settings.1
  have least : o.least = if c.verbose then .debug else .info := run.settings.2
  exact {
    heard
    mild := fun p ignored => least ▸ run.mild ignored
    apart := conserved
    in_turn := fun i => books.in_turn ▸ (accepted_sublist es).filter _
    room := capacity ▸ books.room
    dropped := books.counted
    entry := fun _ _ _ => run.entry
    written := books.written }

def shortNews : Event :=
  .configReloaded "all"

def shortDay : List Act :=
  [.copied 0, .accepted (0, shortNews), .refused (1, shortNews), .received (0, shortNews),
    .counted 1, .swapped 1, .reported 5 1]

theorem run_shortDay (s : Scene) (journal : Config) :
    ∃ o, Run (start s ⟨journal, 0, false⟩ 0) shortDay o ∧ o.clerk = .recording (0, shortNews) := by
  have copied := (Run.refl (start s ⟨journal, 0, false⟩ 0)).step
    (.copied (i := 0) (x := .idle) rfl Sender.noConfusion)
  have accepted := copied.step
    (.accepted (i := 0) (e := shortNews) rfl rfl Clerk.noConfusion Nat.one_pos)
  have refused := accepted.step
    (.refused (i := 1) (e := shortNews) rfl rfl Clerk.noConfusion (Nat.le_refl 1))
  have received := refused.step (.received rfl rfl)
  have counted := received.step (.counted (i := 1) (e := shortNews) rfl)
  have swapped := counted.step (.swapped rfl)
  rcases written : (start s ⟨journal, 0, false⟩ 0).write 5 (droppedEntry (stamp 5) 1)
    with ⟨scene, writer⟩
  exact ⟨_, swapped.step (.reported rfl written), rfl⟩

theorem one_of_two_events_dropped :
    ∃ o, Run (start ⟨emptyPlace, ""⟩ ⟨smallLog, 0, false⟩ 0) shortDay o ∧ o.clerk ≠ .gone ∧
      Kept ⟨emptyPlace, ""⟩ ⟨smallLog, 0, false⟩ 0 shortDay o := by
  obtain ⟨o, run, recording⟩ := run_shortDay ⟨emptyPlace, ""⟩ smallLog
  have alive : o.clerk ≠ .gone := by simp [recording]
  exact ⟨o, run, alive, events_kept run alive⟩

end Office

end MountProbe.Journal
