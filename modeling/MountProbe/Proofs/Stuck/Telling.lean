import MountProbe.Proofs.Stuck.Steps

/-! What callers are told. However calls on one registry interleave, each caller is told one outcome
and no other: that its call took too long, when it looked before the call had reported, or else what
its own call came back with. -/
namespace MountProbe.Stuck

open Race (Deed Event Run Step)

namespace Race.Deed

@[grind]
def ending? : Deed → Option Ending
  | back ending => some ending
  | _ => none

@[grind]
def outcome? : Deed → Option Outcome
  | looked _ true => some .timedOut
  | received answer => some (.completed answer)
  | _ => none

@[grind]
def isReport : Deed → Bool
  | reported _ => true
  | _ => false

/-- The caller does this, and waits for nobody. -/
def isCallers : Deed → Bool
  | expired | looked _ _ | received _ => true
  | _ => false

end Race.Deed

section

variable {κ : Type}

/-- What happened to a call, in order. -/
def deedsOf (i : Nat) (es : List (Event κ)) : List Deed :=
  es.filterMap fun
    | .did j d => if j = i then some d else none
    | .started _ _ => none

def endings (ds : List Deed) : List Ending :=
  ds.filterMap Deed.ending?

def outcomes (ds : List Deed) : List Outcome :=
  ds.filterMap Deed.outcome?

/-- On the way the caller looked, and its call had not reported; with that its mount point went
into the registry. -/
def MarkedOnTheWay (r : Race κ) (es : List (Event κ)) (i : Nat) : Prop :=
  ∃ before now after s t c, es = before ++ .did i (.looked now true) :: after ∧
    Run r before s ∧ Step s (.did i (.looked now true)) t ∧ s.calls[i]? = some c ∧
    c.isOver = false ∧ (∀ d ∈ deedsOf i before, d.isReport = false) ∧
    t.registry = s.registry.mark now c.path ∧ t.registry.isStuck c.path = true

/-- The caller's own steps bring it to an outcome, whatever the others do. -/
def CanFinish (r : Race κ) (i : Nat) : Prop :=
  ∃ (ds : List Deed) (s : Race κ) (c : Call κ), (∀ d ∈ ds, d.isCallers = true) ∧
    Run r (ds.map (.did i)) s ∧ s.calls[i]? = some c ∧ c.outcome?.isSome = true

/-- All that the caller of a call can rely on, after some events from a registry without calls. -/
structure Served (g : Registry) (es : List (Event κ)) (r : Race κ) (i : Nat) (c : Call κ) :
    Prop where
  once : outcomes (deedsOf i es) = c.outcome?.toList
  timed_out : c.outcome? = some .timedOut → MarkedOnTheWay ⟨g, []⟩ es i
  /-- An answer is the one that its own call came back with. -/
  completed : ∀ answer, c.outcome? = some (.completed answer) →
    ∃ ending, endings (deedsOf i es) = [ending] ∧ answer = ending.answer c.path
  /-- An answer that was left and not yet taken is kept for it. -/
  kept : c.isOver = true → c.outcome? = none →
    ∃ ending, endings (deedsOf i es) = [ending] ∧ c.slot = some (ending.answer c.path)
  answered : c.findsNothing = false
  never_held : CanFinish r i
  /-- A call that broke off counts as a failure of the program. -/
  broken : ∀ message, ∃ f, (Ending.broken message).answer c.path = .error f ∧ f.code = "MG-3900"

theorem deedsOf_append (i : Nat) (es fs : List (Event κ)) :
    deedsOf i (es ++ fs) = deedsOf i es ++ deedsOf i fs := by
  simp [deedsOf]

theorem deedsOf_own (i : Nat) (d : Deed) : deedsOf i [(.did i d : Event κ)] = [d] := by
  simp [deedsOf]

theorem deedsOf_other {i : Nat} {e : Event κ} (other : ∀ d, e ≠ .did i d) :
    deedsOf i [e] = [] := by
  cases e with
  | started p client => rfl
  | did j d =>
    have different : j ≠ i := fun he => other d (he ▸ rfl)
    simp [deedsOf, different]

/-- A call agrees with what happened to it. -/
structure Account (c : Call κ) (ds : List Deed) : Prop where
  running : c.probe = .running → endings ds = []
  back : ∀ answer, c.probe = .back answer →
    ∃ ending, endings ds = [ending] ∧ answer = ending.answer c.path
  ended : c.probe = .ended → ∃ ending, endings ds = [ending] ∧
    ((∀ o, c.waiter ≠ .told o) → c.slot = some (ending.answer c.path)) ∧
    ∀ answer, c.waiter = .told (.completed answer) → answer = ending.answer c.path
  unreported : c.probe ≠ .ended → c.slot = none ∧ ∀ d ∈ ds, d.isReport = false
  outcomes : outcomes ds = c.outcome?.toList
  late : c.waiter = .late → c.probe = .ended
  completed : ∀ answer, c.waiter = .told (.completed answer) → c.probe = .ended

theorem account_start (p : Path) (client : κ) : Account { path := p, client } [] := by
  constructor <;> simp [endings, outcomes, Call.outcome?]

theorem Account.answered {c : Call κ} {ds : List Deed} (h : Account c ds) :
    c.findsNothing = false := by
  unfold Call.findsNothing
  split
  · rename_i waiting
    cases ended : c.isOver with
    | false => rfl
    | true =>
      obtain ⟨ending, _, left, _⟩ := h.ended (Call.isOver_iff.mp ended)
      simp [left (by simp [waiting])]
  · rename_i late
    obtain ⟨ending, _, left, _⟩ := h.ended (h.late late)
    simp [left (by simp [late])]
  · rfl

@[grind =]
theorem endings_concat (ds : List Deed) (d : Deed) :
    endings (ds ++ [d]) = endings ds ++ d.ending?.toList := by
  cases d <;> simp [endings, Deed.ending?]

@[grind =]
theorem outcomes_concat (ds : List Deed) (d : Deed) :
    outcomes (ds ++ [d]) = outcomes ds ++ d.outcome?.toList := by
  rw [outcomes, List.filterMap_append]
  cases d with
  | looked now stuck => cases stuck <;> simp [outcomes, Deed.outcome?]
  | _ => simp [outcomes, Deed.outcome?]

/-- Only a caller who is told something by a deed had not been told before, and an answer is left
only by the call that came back with it. -/
theorem Account.step {c c' : Call κ} {d : Deed} {ds : List Deed} (h : Account c ds)
    (does : c.Does d c') : Account c' (ds ++ [d]) := by
  have answered := h.answered
  obtain ⟨running, back, ended, unreported, told, late, completed⟩ := h
  cases does with
  | back ending is_running =>
    have first := running is_running
    constructor <;> grind [Call.outcome?]
  | reported entry is_back untold =>
    obtain ⟨ending, one, same⟩ := back _ is_back
    have nobody : ∀ o, c.waiter ≠ .told o := by
      intro o ho
      rw [Call.outcome?_eq_some.mpr ho] at untold
      contradiction
    constructor <;> grind [Call.outcome?]
  | reportedInVain entry is_back is_told =>
    obtain ⟨ending, one, same⟩ := back _ is_back
    constructor <;> grind [Call.outcome?]
  | expired waiting => constructor <;> grind [Call.outcome?]
  | foundOver now expired is_over => constructor <;> grind [Call.outcome?]
  | foundStuck now expired stuck => constructor <;> grind [Call.outcome?]
  | foundNothing nothing =>
    rw [answered] at nothing
    contradiction
  | received waits left =>
    have is_over : c.probe = .ended := by
      cases hp : c.probe with
      | ended => rfl
      | _ => simp [(unreported (by simp [hp])).1] at left
    obtain ⟨ending, one, mine, _⟩ := ended is_over
    constructor <;> grind [Call.outcome?]

theorem calls_length_step {r s : Race κ} {e : Event κ} (step : Step r e s) :
    r.calls.length ≤ s.calls.length := by
  cases e with
  | started p client => simp [Race.step_started step, Race.start]
  | did i d =>
    obtain ⟨c, c', _, _, calls, _⟩ := Race.step_did step
    simp [calls]

theorem deedsOf_unborn {g : Registry} {es : List (Event κ)} {r : Race κ} {i : Nat}
    (run : Run ⟨g, []⟩ es r) (unborn : r.calls.length ≤ i) : deedsOf i es = [] := by
  induction run with
  | refl => rfl
  | @step s t es e before step ih =>
    have earlier := ih (Nat.le_trans (calls_length_step step) unborn)
    rw [deedsOf_append, earlier, List.nil_append]
    apply deedsOf_other
    rintro d rfl
    obtain ⟨c, c', call, _, calls, _⟩ := Race.step_did step
    have bound := (List.getElem?_eq_some_iff.mp call).1
    rw [calls, List.length_set] at unborn
    omega

theorem account_of_run {g : Registry} {es : List (Event κ)} {r : Race κ} {i : Nat} {c : Call κ}
    (run : Run ⟨g, []⟩ es r) (call : r.calls[i]? = some c) : Account c (deedsOf i es) := by
  induction run generalizing c with
  | refl => simp at call
  | @step s t es e before step ih =>
    rw [deedsOf_append]
    rcases Race.step_call step call with ⟨c, d, rfl, was, does⟩ | ⟨was, other⟩ |
      ⟨rfl, p, client, rfl, rfl⟩
    · rw [deedsOf_own]
      exact (ih was).step does
    · rw [deedsOf_other other, List.append_nil]
      exact ih was
    · have stranger : ∀ d, (.started p client : Event κ) ≠ .did s.calls.length d := by
        intro d h
        cases h
      rw [deedsOf_other stranger, List.append_nil, deedsOf_unborn before (Nat.le_refl _)]
      exact account_start p client

theorem marked_of_run {g : Registry} {es : List (Event κ)} {r : Race κ} {i : Nat} {c : Call κ}
    (run : Run ⟨g, []⟩ es r) (call : r.calls[i]? = some c)
    (timed_out : c.waiter = .told .timedOut) : MarkedOnTheWay ⟨g, []⟩ es i := by
  induction run generalizing c with
  | refl => simp at call
  | @step s t es e before step ih =>
    have earlier : ∀ d, s.calls[i]? = some d → d.waiter = .told .timedOut →
        MarkedOnTheWay ⟨g, []⟩ (es ++ [e]) i := by
      intro d was told
      obtain ⟨b, now, a, s', t', d', rfl, facts⟩ := ih was told
      exact ⟨b, now, a ++ [e], s', t', d', by simp, facts⟩
    rcases Race.step_call step call with ⟨d, deed, rfl, was, does⟩ | ⟨was, _⟩ |
      ⟨rfl, p, client, rfl, rfl⟩
    · cases does with
      | foundStuck now expired stuck =>
        have unreported := (account_of_run before was).unreported stuck
        obtain ⟨d', _, was', _, _, marked⟩ := Race.step_did step
        cases Option.some.inj (was.symm.trans was')
        refine ⟨es, now, [], s, t, d, rfl, before, step, was, ?_, unreported.2, marked, ?_⟩
        · simpa [← Call.isOver_iff] using stuck
        · simp [marked, Registry.after, Registry.isStuck_mark, Path.same_refl]
      | back _ _ => exact earlier d was timed_out
      | reported _ _ _ => exact earlier d was timed_out
      | reportedInVain _ _ _ => exact earlier d was timed_out
      | expired _ => cases timed_out
      | foundOver _ _ _ => cases timed_out
      | foundNothing _ => cases timed_out
      | received _ _ => cases timed_out
    · exact earlier c was timed_out
    · cases timed_out

theorem CanFinish.of_told {r : Race κ} {i : Nat} {c : Call κ} {o : Outcome}
    (call : r.calls[i]? = some c) (told : c.waiter = .told o) : CanFinish r i :=
  ⟨[], r, c, by simp, .refl r, call, by simp [Call.outcome?, told]⟩

theorem CanFinish.of_step {r s : Race κ} {i : Nat} {d : Deed} (step : Step r (.did i d) s)
    (callers : d.isCallers = true) (rest : CanFinish s i) : CanFinish r i := by
  obtain ⟨ds, t, c, all, run, call, told⟩ := rest
  refine ⟨d :: ds, t, c, ?_, run.head step, call, told⟩
  intro d' hd
  rcases List.mem_cons.mp hd with rfl | hd
  · exact callers
  · exact all d' hd

theorem late_can_finish {r : Race κ} {i : Nat} {c : Call κ} (call : r.calls[i]? = some c)
    (late : c.waiter = .late) : CanFinish r i := by
  have takes : c.receive?.isSome = true := by
    cases hs : c.slot <;> simp [Call.receive?, Call.findsNothing, late, hs]
  obtain ⟨⟨c', answer⟩, receive⟩ := Option.isSome_iff_exists.mp takes
  have told : c'.waiter = .told (.completed answer) := by
    cases Call.does_of_receive receive <;> rfl
  have here := Race.getElem?_set_self call c'
  exact .of_step (Race.receive_step call receive) rfl (.of_told here told)

theorem expired_can_finish {r : Race κ} {i : Nat} {c : Call κ} (call : r.calls[i]? = some c)
    (expired : c.waiter = .expired) : CanFinish r i := by
  cases ended : c.isOver with
  | true =>
    have look : c.look? = some ({ c with waiter := .late }, false) := by
      simp [Call.look?, expired, ended]
    exact .of_step (Race.look_step 0 call look) rfl
      (late_can_finish (Race.getElem?_set_self call _) rfl)
  | false =>
    have look : c.look? = some ({ c with waiter := .told .timedOut }, true) := by
      simp [Call.look?, expired, ended]
    exact .of_step (Race.look_step 0 call look) rfl (.of_told (Race.getElem?_set_self call _) rfl)

theorem can_finish {r : Race κ} {i : Nat} {c : Call κ} (call : r.calls[i]? = some c) :
    CanFinish r i := by
  cases hw : c.waiter with
  | waiting =>
    have expire : c.expire? = some { c with waiter := .expired } := by simp [Call.expire?, hw]
    exact .of_step (Race.expire_step call expire) rfl
      (expired_can_finish (Race.getElem?_set_self call _) rfl)
  | expired => exact expired_can_finish call hw
  | late => exact late_can_finish call hw
  | told o => exact .of_told call hw

/-- In every interleaving of calls on one registry each caller is told exactly one outcome: that
its call took too long, if its look marked the mount point before the call had reported, and
otherwise what its own call came back with. -/
theorem each_caller_served {g : Registry} {es : List (Event κ)} {r : Race κ} {i : Nat} {c : Call κ}
    (run : Run ⟨g, []⟩ es r) (call : r.calls[i]? = some c) : Served g es r i c := by
  have account := account_of_run run call
  constructor
  · exact account.outcomes
  · intro timed_out
    exact marked_of_run run call (Call.outcome?_eq_some.mp timed_out)
  · intro answer completed
    have told := Call.outcome?_eq_some.mp completed
    obtain ⟨ending, one, _, same⟩ := account.ended (account.completed answer told)
    exact ⟨ending, one, same answer told⟩
  · intro ended untold
    obtain ⟨ending, one, left, _⟩ := account.ended (Call.isOver_iff.mp ended)
    refine ⟨ending, one, left fun o told => ?_⟩
    rw [Call.outcome?_eq_some.mpr told] at untold
    contradiction
  · exact account.answered
  · exact can_finish call
  · intro message
    exact ⟨_, rfl, rfl⟩

end

/-- Two calls on one mount point, spelled in two ways. The first is given up and marks it. The
second breaks off just after its deadline, and takes the mark away before its caller looks. -/
theorem each_caller_served_at_a_tie :
    ∃ (es : List (Event Unit)) (r : Race Unit) (c d : Call Unit),
      Run ⟨.empty, []⟩ es r ∧ r.calls[0]? = some c ∧ r.calls[1]? = some d ∧
      c.outcome? = some .timedOut ∧ Served .empty es r 0 c ∧
      d.outcome? = some (.completed ((Ending.broken "lost").answer ⟨[47, 97, 47]⟩)) ∧
      Served .empty es r 1 d := by
  have begun := ((Run.refl (⟨.empty, []⟩ : Race Unit)).step (.start _ ⟨[47, 97]⟩ ())).step
    (.start _ ⟨[47, 97, 47]⟩ ())
  have given_up := (begun.step (.expire (i := 0) rfl)).step
    (.look (show Race.look? _ 5 0 = some (_, true) from rfl))
  have reported := ((given_up.step (.expire (i := 1) rfl)).step
    (.finish (show Race.finish? _ 1 (.broken "lost") = some _ from rfl))).step
    (.report (i := 1) rfl)
  have run := (reported.step (.look (show Race.look? _ 6 1 = some (_, false) from rfl))).step
    (.receive (i := 1) rfl)
  exact ⟨_, _, _, _, run, rfl, rfl, rfl, each_caller_served run rfl, rfl,
    each_caller_served run rfl⟩

end MountProbe.Stuck
