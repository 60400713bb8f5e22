import MountProbe.Stuck.Race

namespace MountProbe.Stuck

open Race (Deed Event)

namespace Call

variable {κ : Type}

/-- What a call can do, and what it is then. -/
inductive Does : Call κ → Deed → Call κ → Prop where
  | back {c : Call κ} (ending : Ending) (running : c.probe = .running) :
    Does c (.back ending) { c with probe := .back (ending.answer c.path) }
  | reported {c : Call κ} {answer : Stat.Answer} (entry : Option Entry)
    (back : c.probe = .back answer) (untold : c.outcome? = none) :
    Does c (.reported entry) { c with probe := .ended, slot := some answer }
  /-- Nobody takes the answer any more. -/
  | reportedInVain {c : Call κ} {answer : Stat.Answer} {o : Outcome} (entry : Option Entry)
    (back : c.probe = .back answer) (told : c.waiter = .told o) :
    Does c (.reported entry) { c with probe := .ended }
  | expired {c : Call κ} (waiting : c.waiter = .waiting) :
    Does c .expired { c with waiter := .expired }
  | foundOver {c : Call κ} (now : Nat) (expired : c.waiter = .expired) (ended : c.probe = .ended) :
    Does c (.looked now false) { c with waiter := .late }
  | foundStuck {c : Call κ} (now : Nat) (expired : c.waiter = .expired) (stuck : c.probe ≠ .ended) :
    Does c (.looked now true) { c with waiter := .told .timedOut }
  | foundNothing {c : Call κ} (nothing : c.findsNothing = true) :
    Does c (.received (noAnswer c.path))
      { c with waiter := .told (.completed (noAnswer c.path)) }
  | received {c : Call κ} {answer : Stat.Answer} (waits : c.waiter = .waiting ∨ c.waiter = .late)
    (left : c.slot = some answer) :
    Does c (.received answer) { c with slot := none, waiter := .told (.completed answer) }

theorem isOver_iff {c : Call κ} : c.isOver = true ↔ c.probe = .ended := by
  unfold isOver
  split <;> simp_all

theorem outcome?_eq_some {c : Call κ} {o : Outcome} : c.outcome? = some o ↔ c.waiter = .told o := by
  unfold outcome?
  split <;> simp_all

theorem hasTimedOut_iff {c : Call κ} : c.hasTimedOut = true ↔ c.waiter = .told .timedOut := by
  unfold hasTimedOut
  split <;> simp_all

theorem isLeftBehind_iff {c : Call κ} :
    c.isLeftBehind = true ↔ c.waiter = .told .timedOut ∧ c.probe ≠ .ended := by
  simp [isLeftBehind, hasTimedOut_iff, ← isOver_iff]

theorem does_of_finish {c c' : Call κ} {ending : Ending} (h : c.finish? ending = some c') :
    c.Does (.back ending) c' := by
  unfold finish? at h
  split at h
  · rename_i running
    cases Option.some.inj h
    exact .back ending running
  · contradiction

theorem does_of_report {c c' : Call κ} (entry : Option Entry) (h : c.report? = some c') :
    c.Does (.reported entry) c' := by
  unfold report? at h
  split at h
  · rename_i back
    split at h
    · rename_i told
      cases Option.some.inj h
      exact .reportedInVain entry back told
    · rename_i untold
      cases Option.some.inj h
      refine .reported entry back ?_
      unfold outcome?
      split
      · exact absurd ‹_› (untold _)
      · rfl
  · contradiction

theorem does_of_expire {c c' : Call κ} (h : c.expire? = some c') : c.Does .expired c' := by
  unfold expire? at h
  split at h
  · rename_i waiting
    cases Option.some.inj h
    exact .expired waiting
  · contradiction

theorem does_of_look {c c' : Call κ} {stuck : Bool} (now : Nat)
    (h : c.look? = some (c', stuck)) : c.Does (.looked now stuck) c' := by
  unfold look? at h
  split at h
  · rename_i expired
    split at h
    · rename_i ended
      cases Option.some.inj h
      exact .foundOver now expired (isOver_iff.mp ended)
    · rename_i ended
      cases Option.some.inj h
      exact .foundStuck now expired (fun he => ended (isOver_iff.mpr he))
  · contradiction

theorem does_of_receive {c c' : Call κ} {answer : Stat.Answer}
    (h : c.receive? = some (c', answer)) : c.Does (.received answer) c' := by
  unfold receive? at h
  split at h
  · rename_i nothing
    cases Option.some.inj h
    exact .foundNothing nothing
  · split at h
    · rename_i waiting left
      cases Option.some.inj h
      exact .received (.inl waiting) left
    · rename_i late left
      cases Option.some.inj h
      exact .received (.inr late) left
    · contradiction

theorem Does.path_eq {c c' : Call κ} {d : Deed} (h : c.Does d c') : c'.path = c.path := by
  cases h <;> rfl

theorem Does.client_eq {c c' : Call κ} {d : Deed} (h : c.Does d c') : c'.client = c.client := by
  cases h <;> rfl

theorem Does.ended {c c' : Call κ} {d : Deed} (h : c.Does d c') (ended : c.probe = .ended) :
    c'.probe = .ended := by
  cases h <;> simp_all

theorem Does.told {c c' : Call κ} {d : Deed} {o : Outcome} (h : c.Does d c')
    (told : c.waiter = .told o) : c'.waiter = .told o := by
  cases h <;> simp_all [findsNothing, outcome?]

/-- The second call is the first one at a later time. -/
structure Later (c c' : Call κ) : Prop where
  path_eq : c'.path = c.path
  client_eq : c'.client = c.client
  ended : c.isOver = true → c'.isOver = true
  told : ∀ o, c.outcome? = some o → c'.outcome? = some o

theorem Later.refl (c : Call κ) : c.Later c :=
  ⟨rfl, rfl, id, fun _ => id⟩

theorem Later.trans {a b c : Call κ} (h : a.Later b) (k : b.Later c) : a.Later c :=
  ⟨k.path_eq.trans h.path_eq, k.client_eq.trans h.client_eq, k.ended ∘ h.ended,
    fun o told => k.told o (h.told o told)⟩

theorem Does.later {c c' : Call κ} {d : Deed} (h : c.Does d c') : c.Later c' where
  path_eq := h.path_eq
  client_eq := h.client_eq
  ended ended := isOver_iff.mpr (h.ended (isOver_iff.mp ended))
  told _ told := outcome?_eq_some.mpr (h.told (outcome?_eq_some.mp told))

end Call

/-- What a deed of a call on a mount point makes of the registry. -/
def Registry.after (g : Registry) (p : Path) : Deed → Registry
  | .reported _ => g.clear p
  | .looked now true => g.mark now p
  | _ => g

namespace Race

variable {κ : Type}

theorem step_started {r s : Race κ} {p : Path} {client : κ} (h : Step r (.started p client) s) :
    s = r.start p client := by
  cases h
  rfl

theorem step_did {r s : Race κ} {i : Nat} {d : Deed} (h : Step r (.did i d) s) :
    ∃ c c', r.calls[i]? = some c ∧ c.Does d c' ∧ s.calls = r.calls.set i c' ∧
      s.registry = r.registry.after c.path d := by
  cases h with
  | finish h =>
    simp only [finish?, Option.bind_eq_bind, Option.bind_eq_some_iff, Option.pure_def] at h
    obtain ⟨c, hc, c', hd, hs⟩ := h
    cases Option.some.inj hs
    exact ⟨c, c', hc, c.does_of_finish hd, rfl, rfl⟩
  | @report _ _ entry h =>
    simp only [report?, Option.bind_eq_bind, Option.bind_eq_some_iff, Option.pure_def] at h
    obtain ⟨c, hc, c', hd, hs⟩ := h
    cases Option.some.inj hs
    have path := (c.does_of_report none hd).path_eq
    refine ⟨c, c', hc, c.does_of_report _ hd, rfl, ?_⟩
    simp only [Registry.after, path]
  | expire h =>
    simp only [expire?, Option.bind_eq_bind, Option.bind_eq_some_iff, Option.pure_def] at h
    obtain ⟨c, hc, c', hd, hs⟩ := h
    cases Option.some.inj hs
    exact ⟨c, c', hc, c.does_of_expire hd, rfl, rfl⟩
  | @look _ now _ _ h =>
    simp only [look?, Option.bind_eq_bind, Option.bind_eq_some_iff, Option.pure_def] at h
    obtain ⟨c, hc, ⟨c', b⟩, hd, hs⟩ := h
    cases Option.some.inj hs
    have does := c.does_of_look now hd
    refine ⟨c, c', hc, does, rfl, ?_⟩
    cases b <;> simp [Registry.after, Registry.markUnless, does.path_eq]
  | receive h =>
    simp only [receive?, Option.bind_eq_bind, Option.bind_eq_some_iff, Option.pure_def] at h
    obtain ⟨c, hc, ⟨c', a⟩, hd, hs⟩ := h
    cases Option.some.inj hs
    exact ⟨c, c', hc, c.does_of_receive hd, rfl, rfl⟩

/-- A call after a step: it is the one that the step is about, or it is as it was, or it has just
been started. -/
theorem step_call {r s : Race κ} {e : Event κ} {i : Nat} {c' : Call κ} (h : Step r e s)
    (call : s.calls[i]? = some c') :
    (∃ c d, e = .did i d ∧ r.calls[i]? = some c ∧ c.Does d c') ∨
    (r.calls[i]? = some c' ∧ ∀ d, e ≠ .did i d) ∨
    (i = r.calls.length ∧ ∃ p client, e = .started p client ∧ c' = { path := p, client }) := by
  cases e with
  | started p client =>
    rw [step_started h, start, List.getElem?_append] at call
    split at call
    · exact .inr (.inl ⟨call, fun d => nofun⟩)
    · rename_i high
      have at_end : i - r.calls.length = 0 := by
        have bound := (List.getElem?_eq_some_iff.mp call).1
        simpa using bound
      rw [at_end] at call
      cases Option.some.inj call
      exact .inr (.inr ⟨by omega, p, client, rfl, rfl⟩)
  | did j d =>
    obtain ⟨c, c'', hc, does, hs, _⟩ := step_did h
    rw [hs, List.getElem?_set] at call
    split at call
    · rename_i same
      subst same
      have bound := (List.getElem?_eq_some_iff.mp hc).1
      rw [if_pos bound] at call
      cases Option.some.inj call
      exact .inl ⟨c, d, rfl, hc, does⟩
    · rename_i other
      refine .inr (.inl ⟨call, fun d' he => other ?_⟩)
      injection he

theorem call_before {r s : Race κ} {e : Event κ} {i : Nat} {c' : Call κ} (h : Step r e s)
    (call : s.calls[i]? = some c') :
    (∃ c, r.calls[i]? = some c ∧ c.Later c') ∨
      (i = r.calls.length ∧ ∃ p client, e = .started p client ∧ c' = { path := p, client }) := by
  rcases step_call h call with ⟨c, d, _, was, does⟩ | ⟨was, _⟩ | started
  · exact .inl ⟨c, was, does.later⟩
  · exact .inl ⟨c', was, .refl c'⟩
  · exact .inr started

theorem call_after {r s : Race κ} {e : Event κ} {i : Nat} {c : Call κ} (h : Step r e s)
    (call : r.calls[i]? = some c) : ∃ c', s.calls[i]? = some c' ∧ c.Later c' := by
  have bound := (List.getElem?_eq_some_iff.mp call).1
  cases e with
  | started p client =>
    refine ⟨c, ?_, .refl c⟩
    rw [step_started h, start, List.getElem?_append_left bound]
    exact call
  | did j d =>
    obtain ⟨b, b', other, does, calls, _⟩ := step_did h
    by_cases same : j = i
    · subst same
      cases Option.some.inj (call.symm.trans other)
      exact ⟨b', by simp [calls, bound], does.later⟩
    · refine ⟨c, ?_, .refl c⟩
      rw [calls, List.getElem?_set_ne same]
      exact call

theorem call_after_run {r s : Race κ} {es : List (Event κ)} {i : Nat} {c : Call κ}
    (run : Run r es s) (call : r.calls[i]? = some c) :
    ∃ c', s.calls[i]? = some c' ∧ c.Later c' := by
  induction run with
  | refl => exact ⟨c, call, .refl c⟩
  | step _ step ih =>
    obtain ⟨b, before, later⟩ := ih
    obtain ⟨c', after, later'⟩ := call_after step before
    exact ⟨c', after, later.trans later'⟩

theorem step_did_clients {r s : Race κ} {i : Nat} {d : Deed} (h : Step r (.did i d) s) :
    s.calls.map (·.client) = r.calls.map (·.client) := by
  obtain ⟨c, c', call, does, calls, _⟩ := step_did h
  have same : (r.calls.map (·.client))[i]? = some c'.client := by
    rw [List.getElem?_map, call, Option.map_some, does.client_eq]
  obtain ⟨bound, client⟩ := List.getElem?_eq_some_iff.mp same
  rw [calls, List.map_set, ← client]
  exact List.set_getElem_self bound

theorem Run.head {r s t : Race κ} {e : Event κ} {es : List (Event κ)} (run : Run s es t)
    (step : Step r e s) : Run r (e :: es) t := by
  induction run with
  | refl => exact .step (.refl r) step
  | step _ last ih => exact .step ih last

theorem getElem?_set_self {r : Race κ} {i : Nat} {c : Call κ} (call : r.calls[i]? = some c)
    (c' : Call κ) : (r.calls.set i c')[i]? = some c' := by
  have bound := (List.getElem?_eq_some_iff.mp call).1
  simp [bound]

theorem expire_step {r : Race κ} {i : Nat} {c c' : Call κ} (call : r.calls[i]? = some c)
    (h : c.expire? = some c') :
    Step r (.did i .expired) { r with calls := r.calls.set i c' } :=
  .expire (by simp [expire?, call, h])

theorem look_step {r : Race κ} {i : Nat} {c c' : Call κ} {stuck : Bool} (now : Nat)
    (call : r.calls[i]? = some c) (h : c.look? = some (c', stuck)) :
    Step r (.did i (.looked now stuck))
      ⟨(r.registry.markUnless now c'.path !stuck).1, r.calls.set i c'⟩ :=
  .look (by simp [look?, call, h])

theorem receive_step {r : Race κ} {i : Nat} {c c' : Call κ} {answer : Stat.Answer}
    (call : r.calls[i]? = some c) (h : c.receive? = some (c', answer)) :
    Step r (.did i (.received answer)) { r with calls := r.calls.set i c' } :=
  .receive (by simp [receive?, call, h])

end Race

end MountProbe.Stuck
