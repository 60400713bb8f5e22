import MountProbe.Journal.Reader
import MountProbe.Proofs.Journal.Orders
import MountProbe.Proofs.Json.Reading

/-! The activity log is read back as it was written. Each entry is one line, and a line gives back its
entry, whatever texts are in it. -/
namespace MountProbe.Journal

open Json (Written)

def given {α : Type} (cells : List (String × Option α)) : List (String × α) :=
  cells.filterMap fun cell => cell.2.map (cell.1, ·)

/-- The fields of an entry, with their values where they have one. -/
def Entry.cells (e : Entry) : List (String × Option Json) :=
  [("ts", some (.text e.time)), ("event", some (.text e.kind.name)),
    ("severity", some (.text e.severity.name)), ("mount_point", e.mountPoint.map .text),
    ("device", e.device.map .text), ("fs_type", e.fsType.map .text),
    ("duration_ms", e.durationMs.map .whole), ("records", e.records.map .whole),
    ("stuck", e.stuck.map .whole), ("ok", e.ok.map .bool), ("error_code", e.errorCode.map .text),
    ("error_message", e.errorMessage.map .text), ("details", e.details.map .text)]

/-- The numbers of the entry are numbers of 64 bits. -/
def Entry.InRange (e : Entry) : Prop :=
  ∀ n, e.durationMs = some n ∨ e.records = some n ∨ e.stuck = some n → n ≤ Text.maxWord64

def Event.InRange : Event → Prop
  | collectorStopped _ uptimeSecs => uptimeSecs ≤ Text.maxWord64
  | scrapeCompleted records stuck durationMs =>
    records ≤ Text.maxWord64 ∧ stuck ≤ Text.maxWord64 ∧ durationMs ≤ Text.maxWord64
  | mountStuck _ _ _ timeoutMs => timeoutMs ≤ Text.maxWord64
  | mountRecovered _ stuckForMs => stuckForMs ≤ Text.maxWord64
  | _ => True

section

variable {α : Type} {name : String} {e : Entry}

theorem given_nil : given ([] : List (String × Option α)) = [] := rfl

theorem given_cons (name : String) (value : Option α) (cells : List (String × Option α)) :
    given ((name, value) :: cells) = (value.map (name, ·)).toList ++ given cells := by
  cases value <;> rfl

theorem optional_eq {β : Type} (name : String) (value : β → Json) (o : Option β) :
    Entry.optional name value o = ((o.map value).map (name, ·)).toList := by
  cases o <;> rfl

theorem toJson_eq (e : Entry) : e.toJson = .object (given e.cells) := by
  simp only [Entry.toJson, Entry.cells, given_cons, optional_eq, Option.map_some,
    Option.toList_some, List.append_assoc, List.cons_append, List.nil_append, given_nil,
    List.append_nil]

theorem mem_given {cells : List (String × Option α)} {f : String × α} :
    f ∈ given cells ↔ (f.1, some f.2) ∈ cells := by
  obtain ⟨name, a⟩ := f
  simp only [given, List.mem_filterMap, Option.map_eq_some_iff, Prod.mk.injEq]
  constructor
  · rintro ⟨⟨name', value⟩, member, a', rfl, rfl, rfl⟩
    exact member
  · intro member
    exact ⟨_, member, a, rfl, rfl, rfl⟩

theorem map_given {β : Type} (f : α → β) (cells : List (String × Option α)) :
    (given cells).map (fun g => (g.1, f g.2)) = given (cells.map fun g => (g.1, g.2.map f)) := by
  induction cells with
  | nil => rfl
  | cons cell cells ih =>
    obtain ⟨name, value⟩ := cell
    rw [given_cons, List.map_append, ih, List.map_cons, given_cons]
    cases value <;> rfl

theorem filter_given_of_absent {cells : List (String × Option α)}
    (absent : name ∉ cells.map Prod.fst) : (given cells).filter (fun f => f.1 == name) = [] := by
  rw [List.filter_eq_nil_iff]
  rintro ⟨name', a⟩ member same
  rw [beq_iff_eq] at same
  exact absent (List.mem_map.mpr ⟨_, mem_given.mp member, same⟩)

theorem field?_given {cells : List (String × Option Written)} {value : Option Written}
    (apart : (cells.map Prod.fst).Nodup) (member : (name, value) ∈ cells) :
    field? name (given cells) = some value := by
  have found : (given cells).filter (fun f => f.1 == name) =
      (value.map (name, ·)).toList := by
    induction cells with
    | nil => cases member
    | cons cell cells ih =>
      obtain ⟨fresh, apart⟩ := List.nodup_cons.mp apart
      rw [given_cons, List.filter_append]
      rcases List.mem_cons.mp member with rfl | later
      · rw [filter_given_of_absent fresh, List.append_nil]
        cases value <;> simp
      · have other : cell.1 ≠ name := by
          rintro rfl
          exact fresh (List.mem_map.mpr ⟨_, later, rfl⟩)
        rw [ih apart later]
        cases cell.2 <;> simp [other]
  rw [field?, found]
  cases value <;> rfl

theorem required_given {cells : List (String × Option Written)} {w : Written}
    (apart : (cells.map Prod.fst).Nodup) (member : (name, some w) ∈ cells)
    (read : Written → Option α) : required name read (given cells) = read w := by
  rw [required, field?_given apart member]

theorem allowed_given {cells : List (String × Option Written)} {read : Written → Option α}
    {value : α → Json} {o : Option α} (apart : (cells.map Prod.fst).Nodup)
    (member : (name, (o.map value).map Json.written) ∈ cells)
    (reads : ∀ a, o = some a → read (value a).written = some a)
    (some_value : ∀ a, (value a).written ≠ .null) :
    allowed name read (given cells) = some o := by
  rw [allowed, field?_given apart member]
  cases o with
  | none => rfl
  | some a =>
    simp only [Option.map_some]
    split
    · rename_i none
      cases none
    · rename_i none
      cases none
    · rename_i null
      exact absurd (Option.some.inj (Option.some.inj null)) (some_value a)
    · rename_i w _ same
      cases same
      rw [reads a rfl, Option.map_some]

theorem text?_written (s : String) : (Json.text s).written.text? = some s :=
  Json.spelled?_glyphs s

theorem whole?_written {n : Nat} (within : n ≤ Text.maxWord64) :
    (Json.whole n).written.whole? Text.maxWord64 = some n := by
  rw [Json.written, Json.Written.whole?, Text.readDigits_toDigits within]
  rfl

theorem choice?_written {ofName? : String → Option α} {s : String} {a : α}
    (named : ofName? s = some a) : choice? ofName? (Json.text s).written = some a := by
  rw [choice?, text?_written, Option.bind_some, named]
  rw [Json.written]
  rintro _ ⟨⟩

theorem ofName?_kind (k : Kind) : Kind.ofName? k.name = some k := by
  cases k <;> decide

theorem ofName?_severity (s : Severity) : Severity.ofName? s.name = some s := by
  cases s <;> decide

def Entry.writtenCells (e : Entry) : List (String × Option Written) :=
  e.cells.map fun cell => (cell.1, cell.2.map Json.written)

theorem apart_writtenCells (e : Entry) : (e.writtenCells.map Prod.fst).Nodup := by
  have names : e.writtenCells.map Prod.fst = Entry.names := rfl
  rw [names]
  decide

theorem allowed_text {o : Option String}
    (member : (name, (o.map .text).map Json.written) ∈ e.writtenCells) :
    allowed name Written.text? (given e.writtenCells) = some o :=
  allowed_given (apart_writtenCells e) member (fun s _ => text?_written s) fun _ same => by
    cases same

theorem allowed_whole {o : Option Nat}
    (member : (name, (o.map .whole).map Json.written) ∈ e.writtenCells)
    (within : ∀ n, o = some n → n ≤ Text.maxWord64) :
    allowed name (Written.whole? Text.maxWord64) (given e.writtenCells) = some o :=
  allowed_given (apart_writtenCells e) member (fun n here => whole?_written (within n here))
    fun _ same => by cases same

theorem allowed_bool {o : Option Bool}
    (member : (name, (o.map .bool).map Json.written) ∈ e.writtenCells) :
    allowed name Written.bool? (given e.writtenCells) = some o :=
  allowed_given (apart_writtenCells e) member (fun _ _ => rfl) fun _ same => by cases same

theorem ofFields?_written (in_range : e.InRange) :
    Entry.ofFields? (given e.writtenCells) = some e := by
  have apart := apart_writtenCells e
  have cells : e.writtenCells = e.cells.map fun cell => (cell.1, cell.2.map Json.written) := rfl
  rw [Entry.ofFields?,
    required_given apart (w := (Json.text e.time).written) (by simp [cells, Entry.cells]),
    required_given apart (w := (Json.text e.kind.name).written) (by simp [cells, Entry.cells]),
    required_given apart (w := (Json.text e.severity.name).written) (by simp [cells, Entry.cells]),
    text?_written, choice?_written (ofName?_kind e.kind),
    choice?_written (ofName?_severity e.severity),
    allowed_text (o := e.mountPoint) (by simp [cells, Entry.cells]),
    allowed_text (o := e.device) (by simp [cells, Entry.cells]),
    allowed_text (o := e.fsType) (by simp [cells, Entry.cells]),
    allowed_whole (o := e.durationMs) (by simp [cells, Entry.cells]) fun n here =>
      in_range n (.inl here),
    allowed_whole (o := e.records) (by simp [cells, Entry.cells]) fun n here =>
      in_range n (.inr (.inl here)),
    allowed_whole (o := e.stuck) (by simp [cells, Entry.cells]) fun n here =>
      in_range n (.inr (.inr here)),
    allowed_bool (o := e.ok) (by simp [cells, Entry.cells]),
    allowed_text (o := e.errorCode) (by simp [cells, Entry.cells]),
    allowed_text (o := e.errorMessage) (by simp [cells, Entry.cells]),
    allowed_text (o := e.details) (by simp [cells, Entry.cells])]
  rfl

theorem mapM_spelledField? (fields : List (String × Json)) :
    (Json.writtenFields fields).mapM Entry.spelledField? =
      some (fields.map fun f => (f.1, f.2.written)) := by
  induction fields with
  | nil => rfl
  | cons f fields ih =>
    have spelled : Entry.spelledField? (Json.glyphs f.1, f.2.written) =
        some (f.1, f.2.written) := by
      rw [Entry.spelledField?, Json.glyphs, Json.spelled?_map, Option.map_some,
        String.ofList_toList]
    rw [Json.writtenFields, List.mapM_cons, spelled, ih]
    rfl

theorem ofWritten?_written (in_range : e.InRange) :
    Entry.ofWritten? e.toJson.written = some e := by
  rw [toJson_eq, Json.written, Entry.ofWritten?, mapM_spelledField?, Option.bind_some, map_given]
  exact ofFields?_written in_range

theorem haveOnlyPlain_of_forall {fields : List (String × Json)}
    (each : ∀ f ∈ fields, f.2.isPlain = true) : Json.haveOnlyPlain fields = true := by
  induction fields with
  | nil => rfl
  | cons f fields ih =>
    obtain ⟨plain, others⟩ := List.forall_mem_cons.mp each
    rw [Json.haveOnlyPlain, plain, ih others]
    rfl

theorem isPlain_cells (e : Entry) : ∀ cell ∈ e.cells, ∀ v, cell.2 = some v → v.isPlain = true := by
  simp [Entry.cells, Json.isPlain, or_imp, forall_and]

theorem isPlain_toJson (e : Entry) : e.toJson.isPlain = true := by
  rw [toJson_eq]
  exact haveOnlyPlain_of_forall fun f member =>
    isPlain_cells e _ (mem_given.mp member) f.2 rfl

theorem read?_line (in_range : e.InRange) :
    Entry.read? e.toJson.render = some e ∧ Entry.read? e.line = some e := by
  have plain := isPlain_toJson e
  constructor
  · have read := Json.read?_render (x := []) plain (by simp)
    rw [List.append_nil] at read
    rw [Entry.read?, read, Option.bind_some, ofWritten?_written in_range]
  · rw [Entry.read?, Entry.line, Json.read?_render plain (List.forall_mem_singleton.mpr rfl), Option.bind_some,
      ofWritten?_written in_range]

theorem lines_log (entries : List Entry) :
    Text.lines (entries.flatMap Entry.line) = entries.map fun e => e.toJson.render := by
  have split := @Text.lines_flatMap (entries.map fun e => e.toJson.render) ?_
  · rw [List.flatMap_map] at split
    exact split
  · intro line member
    obtain ⟨e, -, rfl⟩ := List.mem_map.mp member
    refine ⟨(Json.unbroken_render e.toJson).newline_not_mem, fun returned => ?_⟩
    have visible := Json.unbroken_render e.toJson _ (List.mem_of_getLast? returned)
    revert visible
    decide

theorem utf8_log (entries : List Entry) :
    (entries.flatMap fun e => Text.utf8 e.line) = Text.utf8 (entries.flatMap Entry.line) := by
  rw [Text.utf8, List.flatMap_assoc]
  rfl

theorem Event.entry?_eq_some (time : String) {event : Event} (goes_on : event ≠ .shutdown)
    (in_range : event.InRange) : ∃ e, event.entry? time = some e ∧ e.InRange := by
  cases event with
  | shutdown => exact absurd rfl goes_on
  | scrapeCompleted records stuck durationMs =>
    obtain ⟨few, few_stuck, short⟩ := in_range
    refine ⟨_, rfl, ?_⟩
    rintro n (⟨⟨⟩⟩ | ⟨⟨⟩⟩ | ⟨⟨⟩⟩)
    · exact short
    · exact few
    · exact few_stuck
  | mountStuck | mountRecovered =>
    refine ⟨_, rfl, ?_⟩
    rintro n (⟨⟨⟩⟩ | ⟨⟨⟩⟩ | ⟨⟨⟩⟩)
    exact in_range
  | _ =>
    refine ⟨_, rfl, ?_⟩
    rintro n (⟨⟨⟩⟩ | ⟨⟨⟩⟩ | ⟨⟨⟩⟩)

/-- The bytes of an entry hold one line feed, which is the last, and are read back as the entry. -/
structure ReadsBack (e : Entry) : Prop where
  once : (Text.utf8 e.line).count 10 = 1
  last : (Text.utf8 e.line).getLast? = some 10
  back : ∃ text, Text.decode? (Text.utf8 e.line) = some text ∧ Entry.read? text = some e

theorem readsBack (in_range : e.InRange) : ReadsBack e := by
  obtain ⟨body, whole, one⟩ := whole_line e
  refine ⟨?_, ?_, e.line, Text.decode?_eq_some.mpr rfl, (read?_line in_range).2⟩
  · rw [whole, List.count_append, List.count_eq_zero_of_not_mem one]
    rfl
  · rw [whole, List.getLast?_concat]

/-- Every entry, whatever its texts and with any numbers of 64 bits, is written as one line that is
read back as that entry, and so is the entry of every event that has one. A log is cut into as many
lines as it has entries, and they are read back as those entries in order. -/
theorem log_reads_back :
    (∀ e : Entry, e.InRange → ReadsBack e) ∧
    (∀ (time : String) (event : Event), event ≠ .shutdown → event.InRange →
      ∃ e, event.entry? time = some e ∧ ReadsBack e) ∧
    ∀ entries : List Entry, (∀ e ∈ entries, e.InRange) →
      ∃ text, Text.decode? (entries.flatMap fun e => Text.utf8 e.line) = some text ∧
        (Text.lines text).map Entry.read? = entries.map some := by
  refine ⟨fun e => readsBack, fun time event goes_on in_range => ?_, fun entries in_range => ?_⟩
  · obtain ⟨e, made, within⟩ := Event.entry?_eq_some time goes_on in_range
    exact ⟨e, made, readsBack within⟩
  · refine ⟨entries.flatMap Entry.line, Text.decode?_eq_some.mpr (utf8_log entries), ?_⟩
    rw [lines_log, List.map_map]
    exact List.map_congr_left fun e member => (read?_line (in_range e member)).1

end

/-- An entry with a line feed, a quote, a backslash and a control character in its texts. -/
def unruly : Entry where
  time := "t"
  kind := .error
  severity := .critical
  ok := some false
  errorCode := some "a\nb"
  errorMessage := some "\"\\\x01"

theorem log_reads_back_of_unruly : unruly.InRange ∧ ReadsBack unruly ∧
    ∃ text, Text.decode? (Text.utf8 unruly.line ++ Text.utf8 unruly.line) = some text ∧
      (Text.lines text).map Entry.read? = [some unruly, some unruly] := by
  have in_range : unruly.InRange := by
    rintro n (⟨⟨⟩⟩ | ⟨⟨⟩⟩ | ⟨⟨⟩⟩)
  obtain ⟨each, -, logs⟩ := log_reads_back
  refine ⟨in_range, each unruly in_range, ?_⟩
  obtain ⟨text, spelled, back⟩ := logs [unruly, unruly] (by simp [in_range])
  exact ⟨text, by simpa using spelled, back⟩

end MountProbe.Journal
