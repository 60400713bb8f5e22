import MountProbe.Proofs.Mount.Sides

/-! What a table tells, whatever stands in it. A line of the right shape is a mount, or it has no
device number and spoils the table; the first such line fails the reading, and names itself. Tables
that are read one behind the other give the mounts of both. -/
namespace MountProbe.Mount.Table

open Text (FirstCut Worded Denotes)

/-- The words of a line of the right shape: six and any tags before the separator, and two or more
behind it. -/
structure Fields where
  id : List Char
  parent : List Char
  number : List Char
  root : List Char
  mountPoint : List Char
  options : List Char
  tags : List (List Char)
  fsType : List Char
  device : List Char
  more : List (List Char)

namespace Fields

def before (f : Fields) : List (List Char) :=
  f.id :: f.parent :: f.number :: f.root :: f.mountPoint :: f.options :: f.tags

def after (f : Fields) : List (List Char) :=
  f.fsType :: f.device :: f.more

def label (f : Fields) (major minor : Nat) : Label where
  device := (fieldBytes f.device).lossy
  mountPoint := ⟨fieldBytes f.mountPoint⟩
  fsType := String.ofList f.fsType
  mountOptions := String.ofList f.options
  superOptions := String.ofList (f.more.headD [])
  major := toString major
  minor := toString minor

end Fields

/-- A line with a separator, which has these words before the first one and behind it. -/
def Shaped (line : List Char) (f : Fields) : Prop :=
  ∃ head tail, FirstCut separator line head tail ∧ Worded head f.before ∧ Worded tail f.after

def IsShaped (line : List Char) : Prop :=
  ∃ f, Shaped line f

/-- Two numbers of 32 bits around the first colon. -/
def IsDevice (field : List Char) (major minor : Nat) : Prop :=
  ∃ before after, FirstCut [':'] field before after ∧
    (Denotes before major ∧ major ≤ Text.maxWord32) ∧ Denotes after minor ∧ minor ≤ Text.maxWord32

/-- A line tells of a mount. -/
def Tells (line : List Char) (l : Label) : Prop :=
  ∃ f major minor, Shaped line f ∧ IsDevice f.number major minor ∧ l = f.label major minor

/-- A line has the right shape, and no device number where it should have one. -/
def Spoils (line field : List Char) : Prop :=
  ∃ f, Shaped line f ∧ f.number = field ∧ ∀ major minor, ¬ IsDevice field major minor

def IsSpoilt (line : List Char) : Prop :=
  ∃ field, Spoils line field

/-- A line that is neither blank nor of the right shape. -/
def IsBroken (line : List Char) : Prop :=
  Text.isBlankText line = false ∧ ¬ IsShaped line

theorem readDeviceNumber_eq_some {field : List Char} {major minor : Nat} :
    readDeviceNumber field = some (major, minor) ↔ IsDevice field major minor := by
  have numeral : ∀ {cs : List Char} {n : Nat},
      (Text.readNumeral Text.maxWord32 (String.ofList cs)).toOption = some n ↔
        Denotes cs n ∧ n ≤ Text.maxWord32 := by
    intro cs n
    rw [← Text.readNumeral_eq_ok]
    cases Text.readNumeral Text.maxWord32 (String.ofList cs) <;> simp [Except.toOption]
  simp only [readDeviceNumber, Option.bind_eq_bind, Option.bind_eq_some_iff, Prod.exists, numeral,
    Text.splitFirst_eq_some, Option.pure_def, Option.some.injEq, Prod.mk.injEq, IsDevice]
  constructor
  · rintro ⟨before, after, cut, _, first, _, second, rfl, rfl⟩
    exact ⟨before, after, cut, first, second⟩
  · rintro ⟨before, after, cut, first, second⟩
    exact ⟨before, after, cut, major, first, minor, second, rfl, rfl⟩

/-- The fields of a line that has them. -/
def fields? (line : List Char) : Option Fields :=
  match halves line with
  | some (id :: parent :: number :: root :: mountPoint :: options :: tags,
      fsType :: device :: more) =>
    some ⟨id, parent, number, root, mountPoint, options, tags, fsType, device, more⟩
  | _ => none

theorem halves_eq_some {line : List Char} {before after : List (List Char)} :
    halves line = some (before, after) ↔
      ∃ head tail, FirstCut separator line head tail ∧ Worded head before ∧ Worded tail after := by
  simp only [halves, sides_eq_splitFirst, Option.map_eq_some_iff, Prod.exists, Prod.mk.injEq,
    Text.splitFirst_eq_some, Text.words_eq_iff]

theorem fields?_eq_some {line : List Char} {f : Fields} :
    fields? line = some f ↔ Shaped line f := by
  rw [Shaped, ← halves_eq_some, fields?]
  split
  · rename_i cut
    rw [cut]
    cases f
    simp [Fields.before, Fields.after, and_assoc]
  · rename_i other
    refine ⟨nofun, fun cut => ?_⟩
    exact absurd cut (other _ _ _ _ _ _ _ _ _ _)

theorem Shaped.not_blank {line : List Char} {f : Fields} (shaped : Shaped line f) :
    Text.isBlankText line = false := by
  obtain ⟨head, tail, cut, -⟩ := shaped
  rw [cut.whole]
  simp [Text.isBlankText, separator, Text.isBlank]

theorem readLine_of_shaped {line : List Char} {f : Fields} (shaped : Shaped line f) :
    readLine line =
      match readDeviceNumber f.number with
      | none => .badNumber (String.ofList f.number)
      | some (major, minor) => .mount (f.label major minor) := by
  have cut := halves_eq_some.mpr shaped
  rw [readLine, shaped.not_blank, cut]
  rfl

theorem readLine_of_tells {line : List Char} {l : Label} (tells : Tells line l) :
    readLine line = .mount l := by
  obtain ⟨f, major, minor, shaped, device, rfl⟩ := tells
  rw [readLine_of_shaped shaped, readDeviceNumber_eq_some.mpr device]

theorem readLine_of_spoils {line field : List Char} (spoils : Spoils line field) :
    readLine line = .badNumber (String.ofList field) := by
  obtain ⟨f, shaped, rfl, no_device⟩ := spoils
  have unread : readDeviceNumber f.number = none :=
    Option.eq_none_iff_forall_ne_some.mpr fun (major, minor) read =>
      no_device major minor (readDeviceNumber_eq_some.mp read)
  rw [readLine_of_shaped shaped, unread]

theorem readLine_of_broken {line : List Char} (broken : IsBroken line) :
    readLine line = .malformed := by
  rw [readLine, broken.1, if_neg Bool.false_ne_true]
  split
  · rename_i cut
    refine absurd ?_ broken.2
    exact ⟨⟨_, _, _, _, _, _, _, _, _, _⟩, halves_eq_some.mp cut⟩
  · rfl

theorem line_cases (line : List Char) :
    Text.isBlankText line = true ∨ IsBroken line ∨ (∃ l, Tells line l) ∨ IsSpoilt line := by
  by_cases shape : IsShaped line
  · obtain ⟨f, shaped⟩ := shape
    by_cases number : ∃ major minor, IsDevice f.number major minor
    · obtain ⟨major, minor, device⟩ := number
      exact .inr (.inr (.inl ⟨_, f, major, minor, shaped, device, rfl⟩))
    · refine .inr (.inr (.inr ⟨f.number, f, shaped, rfl, ?_⟩))
      exact fun major minor device => number ⟨major, minor, device⟩
  · cases blank : Text.isBlankText line with
    | true => exact .inl rfl
    | false => exact .inr (.inl ⟨blank, shape⟩)

theorem readLine_of_blank {line : List Char} (blank : Text.isBlankText line = true) :
    readLine line = .blank := by
  rw [readLine, if_pos blank]

def Line.isBadNumber : Line → Bool
  | .badNumber _ => true
  | _ => false

theorem isBroken_iff {line : List Char} : IsBroken line ↔ readLine line = .malformed := by
  refine ⟨readLine_of_broken, fun malformed => ?_⟩
  rcases line_cases line with blank | broken | ⟨l, tells⟩ | ⟨field, spoils⟩
  · simp [readLine_of_blank blank] at malformed
  · exact broken
  · simp [readLine_of_tells tells] at malformed
  · simp [readLine_of_spoils spoils] at malformed

theorem isSpoilt_iff {line : List Char} :
    IsSpoilt line ↔ (readLine line).isBadNumber = true := by
  constructor
  · rintro ⟨field, spoils⟩
    rw [readLine_of_spoils spoils]
    rfl
  · intro bad
    rcases line_cases line with blank | broken | ⟨l, tells⟩ | spoilt
    · simp [readLine_of_blank blank, Line.isBadNumber] at bad
    · simp [readLine_of_broken broken, Line.isBadNumber] at bad
    · simp [readLine_of_tells tells, Line.isBadNumber] at bad
    · exact spoilt

instance : DecidablePred IsShaped := fun line =>
  decidable_of_iff ((fields? line).isSome = true) (by
    simp only [Option.isSome_iff_exists, fields?_eq_some, IsShaped])

instance : DecidablePred IsBroken := fun _ =>
  decidable_of_iff _ isBroken_iff.symm

instance : DecidablePred IsSpoilt := fun _ =>
  decidable_of_iff _ isSpoilt_iff.symm

/-- The broken ones of some lines, with their numbers. -/
def brokenLines (number : Nat) (ls : List (List Char)) : List (Nat × String) :=
  ((ls.zipIdx number).filter fun (line, _) => decide (IsBroken line)).map fun (line, n) =>
    (n, String.ofList line)

theorem brokenLines_cons (number : Nat) (line : List Char) (ls : List (List Char)) :
    brokenLines number (line :: ls) =
      (if IsBroken line then [(number, String.ofList line)] else []) ++
        brokenLines (number + 1) ls := by
  rw [brokenLines, List.zipIdx_cons, List.filter_cons]
  by_cases broken : IsBroken line <;> simp [broken, brokenLines]

theorem brokenLines_add (number k : Nat) (ls : List (List Char)) :
    brokenLines (number + k) ls = (brokenLines number ls).map fun (n, line) => (n + k, line) := by
  induction ls generalizing number with
  | nil => rfl
  | cons line ls ih =>
    rw [brokenLines_cons, brokenLines_cons, Nat.add_right_comm, ih]
    by_cases broken : IsBroken line <;> simp [broken]

/-- Lines that do not spoil the table are read one by one, and what follows is read after them. -/
theorem readLines_append {before : List (List Char)} (sound : ∀ line ∈ before, ¬ IsSpoilt line) :
    ∃ ms, List.Forall₂ Tells (before.filter fun line => decide (IsShaped line)) ms ∧
      ∀ number rest, readLines number (before ++ rest) =
        ⟨brokenLines number before ++ (readLines (number + before.length) rest).skipped,
          (readLines (number + before.length) rest).mounts.map (ms ++ ·)⟩ := by
  induction before with
  | nil =>
    refine ⟨[], .nil, fun number rest => ?_⟩
    cases h : (readLines number rest).mounts <;> simp [brokenLines, Except.map, ← h]
  | cons line before ih =>
    obtain ⟨ms, tell, later⟩ := ih fun l member => sound l (List.mem_cons_of_mem _ member)
    have shift : ∀ number, number + 1 + before.length = number + (line :: before).length := by
      intro number
      rw [List.length_cons]
      omega
    rcases line_cases line with blank | broken | ⟨l, tells⟩ | spoilt
    · have unshaped : ¬ IsShaped line := fun ⟨f, shaped⟩ => by simp [shaped.not_blank] at blank
      have whole : ¬ IsBroken line := fun broken => by simp [broken.1] at blank
      refine ⟨ms, by simpa [unshaped] using tell, fun number rest => ?_⟩
      rw [List.cons_append, readLines, readLine_of_blank blank]
      dsimp only
      rw [later, shift, brokenLines_cons, if_neg whole, List.nil_append]
    · refine ⟨ms, by simpa [broken.2] using tell, fun number rest => ?_⟩
      rw [List.cons_append, readLines, readLine_of_broken broken]
      dsimp only
      rw [later, shift, brokenLines_cons, if_pos broken]
      rfl
    · have shaped : IsShaped line := by
        obtain ⟨f, _, _, shaped, -⟩ := tells
        exact ⟨f, shaped⟩
      have whole : ¬ IsBroken line := fun broken => broken.2 shaped
      refine ⟨l :: ms, by simpa [shaped] using tell.cons tells, fun number rest => ?_⟩
      rw [List.cons_append, readLines, readLine_of_tells tells]
      dsimp only
      rw [later, shift, brokenLines_cons, if_neg whole, List.nil_append]
      cases (readLines (number + (line :: before).length) rest).mounts <;> simp [Except.map]
    · exact absurd spoilt (sound line List.mem_cons_self)

theorem readLines_of_sound {ls : List (List Char)} (sound : ∀ line ∈ ls, ¬ IsSpoilt line) :
    ∃ ms, List.Forall₂ Tells (ls.filter fun line => decide (IsShaped line)) ms ∧
      ∀ number, readLines number ls = ⟨brokenLines number ls, .ok ms⟩ ∧
        ∀ rest, (readLines number (ls ++ rest)).mounts =
          (readLines (number + ls.length) rest).mounts.map (ms ++ ·) ∧
        (readLines number (ls ++ rest)).skipped =
          brokenLines number ls ++ (readLines (number + ls.length) rest).skipped := by
  obtain ⟨ms, tell, all⟩ := readLines_append sound
  refine ⟨ms, tell, fun number => ⟨?_, fun rest => ?_⟩⟩
  · have read := all number []
    rw [List.append_nil] at read
    rw [read]
    simp [readLines, Except.map]
  · rw [all]
    exact ⟨rfl, rfl⟩

theorem readLines_of_spoils {before : List (List Char)} {line field : List Char}
    (sound : ∀ line ∈ before, ¬ IsSpoilt line) (spoils : Spoils line field) (number : Nat)
    (after : List (List Char)) :
    readLines number (before ++ line :: after) =
      ⟨brokenLines number before,
        .error (badNumberFailure (number + before.length) (String.ofList field))⟩ := by
  obtain ⟨ms, -, all⟩ := readLines_append sound
  rw [all, readLines, readLine_of_spoils spoils]
  simp [Except.map]

theorem first_spoilt (ls : List (List Char)) :
    (∀ line ∈ ls, ¬ IsSpoilt line) ∨
      ∃ before line field after, ls = before ++ line :: after ∧
        (∀ l ∈ before, ¬ IsSpoilt l) ∧ Spoils line field := by
  cases found : ls.find? fun line => decide (IsSpoilt line) with
  | none => exact .inl fun line member => by simpa using List.find?_eq_none.mp found line member
  | some line =>
    obtain ⟨spoilt, before, after, whole, sound⟩ := List.find?_eq_some_iff_append.mp found
    obtain ⟨field, spoils⟩ : IsSpoilt line := by simpa using spoilt
    exact .inr ⟨before, line, field, after, whole, fun l member => by simpa using sound l member,
      spoils⟩

/-- What the reading of some lines has to come to. -/
structure Told (ls : List (List Char)) (r : Reading) : Prop where
  fails : (∃ e, r.mounts = .error e) ↔ ∃ line ∈ ls, IsSpoilt line
  first : ∀ before line field after, ls = before ++ line :: after →
    (∀ l ∈ before, ¬ IsSpoilt l) → Spoils line field →
    r.mounts = .error (badNumberFailure (before.length + 1) (String.ofList field))
  mounts : ∀ ms, r.mounts = .ok ms →
    List.Forall₂ Tells (ls.filter fun line => decide (IsShaped line)) ms
  skipped : r.skipped = brokenLines 1 (ls.takeWhile fun line => !decide (IsSpoilt line))

theorem told_readLines (ls : List (List Char)) : Told ls (readLines 1 ls) := by
  have first : ∀ before line field after, ls = before ++ line :: after →
      (∀ l ∈ before, ¬ IsSpoilt l) → Spoils line field →
      (readLines 1 ls).mounts =
        .error (badNumberFailure (before.length + 1) (String.ofList field)) := by
    rintro before line field after rfl sound spoils
    rw [readLines_of_spoils sound spoils, Nat.add_comm]
  rcases first_spoilt ls with sound | ⟨before, line, field, after, whole, sound, spoils⟩
  · obtain ⟨ms, tell, read⟩ := readLines_of_sound sound
    rw [(read 1).1] at first ⊢
    refine ⟨⟨nofun, fun ⟨line, member, spoilt⟩ => absurd spoilt (sound line member)⟩, first, ?_, ?_⟩
    · rintro ms' ⟨⟩
      exact tell
    · rw [List.takeWhile_eq_self_iff.mpr fun line member => by simpa using sound line member]
  · have read := readLines_of_spoils sound spoils 1 after
    rw [← whole] at read
    have member : line ∈ ls := by simp [whole]
    rw [read] at first ⊢
    refine ⟨⟨fun _ => ⟨line, member, field, spoils⟩, fun _ => ⟨_, rfl⟩⟩, first, nofun, ?_⟩
    have spoilt : IsSpoilt line := ⟨field, spoils⟩
    rw [whole, List.takeWhile_append_of_pos fun l there => by simpa using sound l there]
    simp [spoilt]

/-- The reading of one text behind another, of which the first has so many lines. -/
inductive Joined (count : Nat) (first second whole : Reading) : Prop where
  | failed {e : Failure} : first.mounts = .error e → whole = first → Joined count first second whole
  | failedLater {ms : List Label} {number : Nat} {field : String} :
    first.mounts = .ok ms → second.mounts = .error (badNumberFailure number field) →
    whole.mounts = .error (badNumberFailure (number + count) field) →
    whole.skipped = first.skipped ++ second.skipped.map (fun (n, line) => (n + count, line)) →
    Joined count first second whole
  | both {ms ns : List Label} :
    first.mounts = .ok ms → second.mounts = .ok ns → whole.mounts = .ok (ms ++ ns) →
    whole.skipped = first.skipped ++ second.skipped.map (fun (n, line) => (n + count, line)) →
    Joined count first second whole

theorem joined_readLines (ls more : List (List Char)) :
    Joined ls.length (readLines 1 ls) (readLines 1 more) (readLines 1 (ls ++ more)) := by
  rcases first_spoilt ls with sound | ⟨before, line, field, after, rfl, sound, spoils⟩
  · obtain ⟨ms, -, read⟩ := readLines_of_sound sound
    obtain ⟨first, later⟩ := read 1
    obtain ⟨mounts, skipped⟩ := later more
    have ok : (readLines 1 ls).mounts = .ok ms := by rw [first]
    have broken : (readLines 1 ls).skipped = brokenLines 1 ls := by rw [first]
    rcases first_spoilt more with sound' | ⟨before, line, field, after, rfl, sound', spoils⟩
    · obtain ⟨ns, -, read'⟩ := readLines_of_sound sound'
      have second := (read' 1).1
      rw [(read' _).1] at mounts skipped
      have ok' : (readLines 1 more).mounts = .ok ns := by rw [second]
      refine .both ok ok' mounts ?_
      rw [skipped, broken, second, brokenLines_add]
    · have second := readLines_of_spoils sound' spoils 1 after
      rw [readLines_of_spoils sound' spoils] at mounts skipped
      have fails : (readLines 1 (before ++ line :: after)).mounts =
          .error (badNumberFailure (1 + before.length) (String.ofList field)) := by
        rw [second]
      refine .failedLater ok fails ?_ ?_
      · rw [mounts, Nat.add_right_comm]
        rfl
      · rw [skipped, broken, second, brokenLines_add]
  · have read := readLines_of_spoils sound spoils 1
    refine .failed (e := badNumberFailure (1 + before.length) (String.ofList field)) ?_ ?_
    · rw [read]
    · rw [List.append_assoc, List.cons_append, read, read]

/-- Every table is read as its lines tell, and a table behind another as the two of them. -/
theorem read_tells_its_lines :
    (∀ text, Told (Text.lines text) (read text)) ∧
    ∀ a b, Joined ((a ++ ['\n']).count '\n') (read (a ++ ['\n'])) (read b)
      (read (a ++ '\n' :: b)) := by
  refine ⟨fun text => told_readLines (Text.lines text), fun a b => ?_⟩
  rw [← Text.length_lines_feed, read, read, read, Text.lines_append_feed a b]
  exact joined_readLines _ _

end MountProbe.Mount.Table
