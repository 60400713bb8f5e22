import MountProbe.Proofs.Collector.InTurn

namespace MountProbe

open Stuck (Outcome)

namespace Journal

/-- What cycles and their calls say; everything else is said by others. -/
def Kind.isNotice : Kind → Bool
  | scrapeComplete | mountIgnored | mountStuck | mountSkipped | mountRecovered | statFailed => true
  | _ => false

namespace Event

def kind? (e : Event) : Option Kind :=
  (e.entry? "").map (·.kind)

def mountPoint? (e : Event) : Option String :=
  (e.entry? "").bind (·.mountPoint)

def isNotice (e : Event) : Bool :=
  e.kind?.any Kind.isNotice

def ofKind (k : Kind) (es : List Event) : List Event :=
  es.filter fun e => e.kind? = some k

theorem ofKind_append (k : Kind) (es fs : List Event) :
    ofKind k (es ++ fs) = ofKind k es ++ ofKind k fs :=
  List.filter_append ..

theorem ofKind_of_all {k : Kind} {es : List Event} (all : ∀ e ∈ es, e.kind? = some k) :
    ofKind k es = es :=
  List.filter_eq_self.mpr fun e member => by simp [all e member]

theorem ofKind_of_other {j k : Kind} {es : List Event} (all : ∀ e ∈ es, e.kind? = some k)
    (different : k ≠ j) : ofKind j es = [] :=
  List.filter_eq_nil_iff.mpr fun e member => by simp [all e member, different]

theorem ofKind_of_noted {k : Kind} {e : Event} {said : List Event} (notice : k.isNotice = true)
    (other : e.isNotice = false) (noted : said = [] ∨ said = [e]) : ofKind k said = [] := by
  rcases noted with rfl | rfl
  · rfl
  · refine List.filter_eq_nil_iff.mpr fun x member => ?_
    rw [List.mem_singleton.mp member, decide_eq_true_eq]
    intro kind
    rw [isNotice, kind, Option.any_some, notice] at other
    cases other

end Event

end Journal

open Journal.Event (ofKind)

namespace Traffic

structure Heard (t : Traffic) : Prop where
  cycles : ∀ c ∈ t.cycles, c.guard.logged = true
  calls : ∀ call ∈ t.race.calls, call.client.guard.logged = true

/-- Who begins a cycle or makes a call has a logger, and nobody else says what cycles say. -/
def Event.isHeard : Event → Bool
  | .began _ c _ => c.guard.logged
  | .called _ g => g.logged
  | .noted e => !e.isNotice
  | _ => true

/-- Events that come without a word. -/
def Event.isSilent : Event → Bool
  | .called _ _ | .took _ _ | .collected _ _ => true
  | .considered _ _ stuck => !stuck
  | .did _ (.reported entry) => entry.isNone
  | .did _ _ => true
  | _ => false

/-- What a step says by its event. -/
inductive Says (t : Traffic) : Event → List Journal.Event → Prop where
  | began (now : Nat) (c : Collector) (mounts : List Mount.Label) :
    Says t (.began now c mounts) (c.ignored mounts)
  | skipped (i : Nat) (l : Mount.Label) : Says t (.considered i l true) [.skipped l]
  | handed {k i : Nat} {call : Stuck.Call Client} {o : Outcome} :
    t.race.calls[k]? = some call → call.client.cycle = some i → call.outcome? = some o →
    Says t (.handed i call.client.label o)
      (Journal.Event.ofOutcome? call.client.label call.client.guard.timeoutMs o).toList
  | recovered {k : Nat} {call : Stuck.Call Client} {entry : Stuck.Entry} (ms : Nat) :
    t.race.calls[k]? = some call → t.race.registry.entry? call.path = some entry →
    Says t (.did k (.reported (some entry))) [.mountRecovered call.path.display ms]
  | completed (i : Nat) (records : List Stat.Record) (size ms : Nat) :
    Says t (.closed i records) [.scrapeCompleted records.length size ms]
  | noted {e : Journal.Event} {said : List Journal.Event} : e.isNotice = false →
    (said = [] ∨ said = [e]) → Says t (.noted e) said
  | silent {e : Event} : e.isSilent = true → Says t e []

section

variable {t u v : Traffic} {e : Event} {es : List Event}

theorem events_log {g : Guard} (logged : g.logged = true) (t : Traffic) (e : Journal.Event) :
    (t.log g e).events = e :: t.events := by
  rw [log, if_pos logged]

theorem events_logAll {g : Guard} (logged : g.logged = true) (t : Traffic)
    (es : List Journal.Event) : (t.logAll g es).events = es.reverse ++ t.events := by
  unfold logAll
  induction es generalizing t with
  | nil => rfl
  | cons e es ih =>
    rw [List.foldl_cons, ih, events_log logged, List.reverse_cons, List.append_assoc]
    rfl

theorem events_tell {client : Client} (logged : client.guard.logged = true) (t : Traffic)
    (o : Outcome) : (t.tell client o).events =
      (Journal.Event.ofOutcome? client.label client.guard.timeoutMs o).toList ++ t.events := by
  unfold tell
  cases Journal.Event.ofOutcome? client.label client.guard.timeoutMs o with
  | none => rfl
  | some e => exact events_log logged t e

theorem Heard.step (heard : Heard t) (step : Step t e u) (fair : e.isHeard = true) : Heard u := by
  constructor
  · intro c' member
    obtain ⟨i, cycle⟩ := List.mem_iff_getElem?.mp member
    rcases step_cycle step cycle with ⟨c, pool, pe, was, _, _, rfl⟩ |
      ⟨c, records, _, was, _, _, rfl⟩ | ⟨was, _⟩ | ⟨_, now, c, mounts, rfl, rfl⟩
    · exact heard.cycles c (List.mem_of_getElem? was)
    · exact heard.cycles c (List.mem_of_getElem? was)
    · exact heard.cycles c' (List.mem_of_getElem? was)
    · exact fair
  · intro call member
    rcases step_calls step member with ⟨was, before, later⟩ | ⟨i, l, c, _, cycle, rfl⟩ |
      ⟨l, g, rfl, rfl⟩
    · rw [later.client_eq]
      exact heard.calls was before
    · exact heard.cycles c (List.mem_of_getElem? cycle)
    · exact fair

/-- What stands in the log after a step, and did not before. -/
theorem step_tells (heard : Heard t) (step : Step t e u) (fair : e.isHeard = true) :
    ∃ said, Says t e said ∧ u.events = said.reverse ++ t.events := by
  cases does_of_step step with
  | begin now c mounts => exact ⟨_, .began now c mounts, events_logAll fair t _⟩
  | call l g => exact ⟨[], .silent rfl, rfl⟩
  | pass cycle _ _ _ =>
    have logged := heard.cycles _ (List.mem_of_getElem? cycle)
    exact ⟨_, .skipped _ _, events_log logged _ _⟩
  | dispatch _ _ _ _ => exact ⟨[], .silent rfl, rfl⟩
  | take _ _ _ => exact ⟨[], .silent rfl, rfl⟩
  | @deed k d _ _ unfreed =>
    have silent : (Event.did k d).isSilent = true := by
      cases d with
      | reported entry =>
        cases entry with
        | none => rfl
        | some entry => exact absurd rfl (unfreed entry)
      | _ => rfl
    exact ⟨[], .silent silent, rfl⟩
  | free here found _ =>
    have logged := heard.calls _ (List.mem_of_getElem? here)
    exact ⟨_, .recovered _ here found, events_log logged _ _⟩
  | @handIn _ _ _ call o _ called mine told _ _ =>
    have logged := heard.calls call (List.mem_of_getElem? called)
    refine ⟨_, .handed called mine told, ?_⟩
    rw [events_tell logged]
    cases Journal.Event.ofOutcome? call.client.label call.client.guard.timeoutMs o <;> rfl
  | collect _ _ _ => exact ⟨[], .silent rfl, rfl⟩
  | close cycle _ _ _ =>
    have logged := heard.cycles _ (List.mem_of_getElem? cycle)
    exact ⟨_, .completed _ _ _ _, events_log logged _ _⟩
  | note g e =>
    have other : e.isNotice = false := by simpa [Event.isHeard] using fair
    unfold log
    split
    · exact ⟨_, .noted other (.inr rfl), rfl⟩
    · exact ⟨_, .noted other (.inl rfl), rfl⟩

/-- Cycles take turns, and this is all that is said on the way. -/
inductive Saying : Traffic → List Event → Traffic → List Journal.Event → Prop where
  | refl (t : Traffic) : Saying t [] t []
  | step {t u v : Traffic} {es : List Event} {e : Event} {all said : List Journal.Event} :
    Saying t es u all → Step u e v → u.InTurn e → Says u e said →
    Saying t (es ++ [e]) v (all ++ said)

variable {all : List Journal.Event}

theorem Saying.inTurn {bs : List Event} (turns : RunInTurn bs t) (saying : Saying t es u all) :
    RunInTurn (bs ++ es) u := by
  induction saying with
  | refl =>
    rw [List.append_nil]
    exact turns
  | step _ step turn _ ih =>
    rw [← List.append_assoc]
    exact ih.step step turn

/-- Somebody has listened to all of it, and the log has grown by what was said. -/
structure Listened (t : Traffic) (es : List Event) (u : Traffic) (all : List Journal.Event) :
    Prop where
  saying : Saying t es u all
  log : u.events = all.reverse ++ t.events
  heard : Heard u

theorem Listened.step (listened : Listened t es u all) (step : Step u e v) (turn : u.InTurn e)
    (fair : e.isHeard = true) : ∃ more, Listened t (es ++ [e]) v more := by
  obtain ⟨said, tells, log⟩ := step_tells listened.heard step fair
  refine ⟨all ++ said, listened.saying.step step turn tells, ?_, listened.heard.step step fair⟩
  rw [log, listened.log, List.reverse_append, List.append_assoc]

theorem listened_of_turns (turns : RunInTurn es t) (fair : ∀ e ∈ es, e.isHeard = true) :
    ∃ all, Listened empty es t all := by
  induction turns with
  | start => exact ⟨[], .refl _, rfl, by simp [empty], by simp [empty]⟩
  | @step v w es e _ step turn ih =>
    obtain ⟨all, listened⟩ := ih fun e member => fair e (List.mem_append_left _ member)
    exact listened.step step turn (fair e (List.mem_append_right _ (List.mem_singleton.mpr rfl)))

theorem Event.inTurn_of_isQuiet (quiet : e.isQuiet = true) (t : Traffic) : t.InTurn e := by
  cases e with
  | began now c mounts => cases quiet
  | called l g => cases quiet
  | _ => trivial

theorem Listened.run {bs : List Event} (listened : Listened t bs u all) (run : Run u es v)
    (quiet : ∀ e ∈ es, e.isQuiet = true) (fair : ∀ e ∈ es, e.isHeard = true) :
    ∃ more, Listened t (bs ++ es) v more := by
  induction run with
  | refl => exact ⟨all, by rwa [List.append_nil]⟩
  | @step w x es e _ step ih =>
    obtain ⟨more, earlier⟩ := ih (fun e member => quiet e (List.mem_append_left _ member))
      fun e member => fair e (List.mem_append_left _ member)
    have last := List.mem_append_right es (List.mem_singleton.mpr (Eq.refl e))
    rw [← List.append_assoc]
    exact earlier.step step (Event.inTurn_of_isQuiet (quiet e last) w) (fair e last)

end

end Traffic

end MountProbe
