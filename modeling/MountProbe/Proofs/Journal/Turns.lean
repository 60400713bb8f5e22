import MountProbe.Proofs.Journal.Office

namespace MountProbe.Journal

theorem writeAll_append (now : Nat) (s : Scene) (w : Writer) (xs ys : List Entry) :
    writeAll now s w (xs ++ ys) =
      writeAll now (writeAll now s w xs).1 (writeAll now s w xs).2 ys := by
  induction xs generalizing s w with
  | nil => rfl
  | cons x xs ih => exact ih ..

theorem writeAll_cons (now : Nat) (s : Scene) (w : Writer) (x : Entry) (xs : List Entry) :
    writeAll now s w (x :: xs) = writeAll now (w.write s now x).1 (w.write s now x).2 xs := rfl

theorem entriesFor_eq (time : String) (n : Nat) (e : Event) :
    entriesFor time n e =
      ((if 0 < n then [droppedEntry time n] else []) ++ (e.entry? time).toList,
        (e.entry? time).isSome) := by
  cases h : e.entry? time <;> simp [entriesFor, h]

theorem Event.isSome_entry? {e : Event} (more : e ≠ .shutdown) (time : String) :
    (e.entry? time).isSome := by
  cases e <;> first | rfl | exact (more rfl).elim

namespace Queue

variable {q : Queue} {e : Event}

theorem send_of_mild (mild : q.takes e = false) : q.send e = q := by
  simp [send, mild]

theorem send_of_room (takes : q.takes e = true) (room : q.waiting.length < q.capacity) :
    q.send e = { q with waiting := q.waiting ++ [e] } := by
  simp [send, takes, room]

theorem send_of_full (takes : q.takes e = true) (full : q.capacity ≤ q.waiting.length) :
    q.send e = { q with dropped := q.dropped + 1 } := by
  simp [send, takes, Nat.not_lt_of_le full]

theorem mem_send {x : Event} (h : x ∈ (q.send e).waiting) : x ∈ q.waiting ∨ x = e := by
  rw [send] at h
  split at h
  · exact .inl h
  · split at h
    · simpa using h
    · exact .inl h

end Queue

namespace Office

variable {a o d : Office} {es fs : List Act} {e : Act}

theorem Run.single (step : Step o e d) : Run o [e] d :=
  .step (.refl o) step

theorem Run.append (first : Run a es o) (last : Run o fs d) : Run a (es ++ fs) d := by
  induction last with
  | refl => simpa using first
  | step _ step ih => exact List.append_assoc .. ▸ ih.step step

@[simp] theorem queue_waiting (o : Office) : o.queue.waiting = o.waiting.map Prod.snd := rfl

@[simp] theorem queue_capacity (o : Office) : o.queue.capacity = o.capacity := rfl

theorem send_run {i : Nat} {x : Event} (idle : o.senders[i]? = some .idle)
    (heard : o.clerk ≠ .gone) :
    ∃ es waiting dropped, Run o es { o with waiting, dropped } ∧
      queue { o with waiting, dropped } = o.queue.send x := by
  cases takes : o.queue.takes x with
  | false =>
    exact ⟨_, _, _, .single (.ignored idle takes), (Queue.send_of_mild takes).symm⟩
  | true =>
    by_cases room : o.waiting.length < o.capacity
    · refine ⟨_, _, _, .single (.accepted idle takes heard room), ?_⟩
      rw [Queue.send_of_room takes (by simpa using room)]
      simp [queue]
    · have full := Nat.le_of_not_lt room
      obtain ⟨inside, same⟩ := List.getElem?_eq_some_iff.mp idle
      have here : (o.senders.set i (.refused x))[i]? = some (.refused x) := by simp [inside]
      have back : (o.senders.set i (.refused x)).set i .idle = o.senders := by
        rw [List.set_set, ← same, List.set_getElem_self]
      have counted := (Run.single (.refused idle takes heard full)).step (.counted here)
      simp only [back] at counted
      exact ⟨_, _, _, counted, (Queue.send_of_full takes (by simpa using full)).symm⟩

theorem last_run {p : Parcel} (recording : o.clerk = .recording p) (ms : Nat) :
    ∃ es, Run o es { o with
      clerk := if (Event.entry? (stamp ms) p.2).isSome then .listening else .closing (some p)
      scene := (writeAll (ms / 1000) o.scene o.writer (Event.entry? (stamp ms) p.2).toList).1
      writer := (writeAll (ms / 1000) o.scene o.writer (Event.entry? (stamp ms) p.2).toList).2 } := by
  cases entry : Event.entry? (stamp ms) p.2 with
  | none => exact ⟨_, .single (.stopped ms recording entry)⟩
  | some x => exact ⟨_, .single (.recorded recording entry rfl)⟩

/-- The clerk's turn with one event, from receiving it to the writing of its entry. -/
theorem serve_run {p : Parcel} {rest : List Parcel} (listening : o.clerk = .listening)
    (first : o.waiting = p :: rest) (ms : Nat) :
    ∃ es scene writer, Run o es { o with
        waiting := rest
        dropped := 0
        clerk := if (Event.entry? (stamp ms) p.2).isSome then .listening else .closing (some p)
        scene, writer } ∧
      (scene, writer) =
        writeAll (ms / 1000) o.scene o.writer (entriesFor (stamp ms) o.dropped p.2).1 := by
  have received := Run.single (.received listening first)
  have swapped := received.step (.swapped rfl)
  rw [entriesFor_eq]
  by_cases some_dropped : 0 < o.dropped
  · simp only [some_dropped, if_true] at swapped ⊢
    rcases written : o.write ms (droppedEntry (stamp ms) o.dropped) with ⟨scene, writer⟩
    have reported := swapped.step (.reported rfl written)
    obtain ⟨es, last⟩ := last_run (o := { o with
      waiting := rest, dropped := 0, clerk := .recording p, scene, writer }) rfl ms
    refine ⟨_, _, _, reported.append last, ?_⟩
    have both : o.writer.write o.scene (ms / 1000) (droppedEntry (stamp ms) o.dropped) =
      (scene, writer) := written
    rw [List.singleton_append, writeAll_cons, both]
  · simp only [some_dropped, if_false] at swapped ⊢
    obtain ⟨es, last⟩ := last_run (o := { o with
      waiting := rest, dropped := 0, clerk := .recording p }) rfl ms
    exact ⟨_, _, _, swapped.append last, rfl⟩

theorem drain_run (listening : o.clerk = .listening) (ms : Nat) :
    ∃ es d, Run o es d ∧ (d.scene, d.writer) =
      writeAll (ms / 1000) o.scene o.writer
        (drain (stamp ms) o.dropped (o.waiting.map Prod.snd)) := by
  generalize waits : o.waiting = waiting
  induction waiting generalizing o with
  | nil => exact ⟨[], o, .refl o, rfl⟩
  | cons p rest ih =>
    obtain ⟨es, scene, writer, served, written⟩ := serve_run listening waits ms
    rw [entriesFor_eq] at written
    rw [List.map_cons, drain, entriesFor_eq]
    cases entry : Event.entry? (stamp ms) p.2 with
    | none =>
      simp only [entry, Option.isSome_none] at served written ⊢
      exact ⟨_, _, served, written⟩
    | some x =>
      simp only [entry, Option.isSome_some, if_true] at served written ⊢
      obtain ⟨fs, d, more, after⟩ := ih (o := { o with
        waiting := rest, dropped := 0, clerk := .listening, scene, writer }) rfl rfl
      refine ⟨_, d, served.append more, ?_⟩
      rw [after, writeAll_append, ← written]

/-- The channel, the files and the writer, as one who looks at the logger sees them. -/
def logger (o : Office) : Scene × Logger :=
  (o.scene, ⟨o.queue, o.writer⟩)

/-- Nobody is in the middle of anything, and the clerk is not told to stop. -/
structure Resting (i : Nat) (o : Office) : Prop where
  idle : o.senders[i]? = some .idle
  listening : o.clerk = .listening
  more : ∀ p ∈ o.waiting, p.2 ≠ .shutdown

theorem Resting.send {i : Nat} (resting : Resting i o) {x : Event} (more : x ≠ .shutdown) :
    ∃ es waiting dropped, Run o es { o with waiting, dropped } ∧
      Resting i { o with waiting, dropped } ∧
      queue { o with waiting, dropped } = o.queue.send x := by
  obtain ⟨es, waiting, dropped, run, sent⟩ :=
    send_run (x := x) resting.idle (resting.listening ▸ Clerk.noConfusion)
  refine ⟨es, waiting, dropped, run, ⟨resting.idle, resting.listening, fun p member => ?_⟩, sent⟩
  have waits : p.2 ∈ (o.queue.send x).waiting := sent ▸ List.mem_map_of_mem member
  rcases Queue.mem_send waits with before | rfl
  · obtain ⟨q, here, same⟩ := List.mem_map.mp before
    exact same ▸ resting.more q here
  · exact more

theorem sendAll_run {i : Nat} (resting : Resting i o) (xs : List Event) (more : .shutdown ∉ xs) :
    ∃ es waiting dropped, Run o es { o with waiting, dropped } ∧
      Resting i { o with waiting, dropped } ∧
      queue { o with waiting, dropped } = xs.foldl Queue.send o.queue := by
  induction xs generalizing o with
  | nil => exact ⟨[], _, _, .refl o, resting, rfl⟩
  | cons x xs ih =>
    rw [List.mem_cons, not_or] at more
    obtain ⟨es, waiting, dropped, first, here, sent⟩ := resting.send (Ne.symm more.1)
    obtain ⟨fs, waiting', dropped', others, there, all⟩ := ih here more.2
    exact ⟨_, waiting', dropped', first.append others, there, all.trans (by rw [sent]; rfl)⟩

theorem record_run {i : Nat} (resting : Resting i o) (ms : Nat) {x : Event} (more : x ≠ .shutdown) :
    ∃ es d, Run o es d ∧ Resting i d ∧ d.logger = o.logger.2.record o.logger.1 ms x := by
  obtain ⟨es, waiting, dropped, sends, open_still, sent⟩ := resting.send more
  simp only [Logger.record, logger, ← sent]
  cases waiting with
  | nil => exact ⟨es, _, sends, open_still, rfl⟩
  | cons p rest =>
    obtain ⟨fs, scene, writer, serves, written⟩ := serve_run open_still.listening rfl ms
    have goes_on := Event.isSome_entry? (open_still.more p List.mem_cons_self) (stamp ms)
    simp only [goes_on, if_true] at serves
    refine ⟨_, _, sends.append serves, ⟨open_still.idle, rfl, fun q member =>
      open_still.more q (List.mem_cons_of_mem p member)⟩, ?_⟩
    simp only [Queue.receive?, queue, List.map_cons, ← written]

theorem recordAll_run {i : Nat} (resting : Resting i o) (ms : Nat) (xs : List Event)
    (more : .shutdown ∉ xs) :
    ∃ es d, Run o es d ∧ Resting i d ∧ d.logger = o.logger.2.recordAll o.logger.1 ms xs := by
  induction xs generalizing o with
  | nil => exact ⟨[], o, .refl o, resting, rfl⟩
  | cons x xs ih =>
    rw [List.mem_cons, not_or] at more
    obtain ⟨es, d, first, here, recorded⟩ := record_run resting ms (Ne.symm more.1)
    obtain ⟨fs, d', others, there, all⟩ := ih here more.2
    refine ⟨_, d', first.append others, there, ?_⟩
    rw [all, recorded]
    rfl

theorem resting_start (s : Scene) (c : LoggerConfig) (ms : Nat) : Resting 0 (start s c ms) where
  idle := rfl
  listening := rfl
  more := fun _ member => nomatch member

theorem logger_start (s : Scene) (c : LoggerConfig) (ms : Nat) :
    (start s c ms).logger = Logger.start s c ms := rfl

end Office

end MountProbe.Journal
