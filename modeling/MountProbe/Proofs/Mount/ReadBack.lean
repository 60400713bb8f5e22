import Mathlib.Data.List.Basic
import MountProbe.Proofs.Mount.Kernel
import MountProbe.Proofs.Mount.Sides
import MountProbe.Proofs.Mount.Source

/-! What is read of the mount table that the kernel prints. A mount comes back as it was unless its
mount point or its device holds a blank that the kernel does not escape; and a path that is no text
leaves nothing of the table to be read. -/
namespace MountProbe.Mount

open Text (utf8 words)

/-- Text in which every blank is one that the kernel escapes. -/
def Unbroken (bs : Bytes) : Prop :=
  ∃ cs, bs = utf8 cs ∧ ∀ c ∈ cs, Table.isBareBlank c = false

theorem Unbroken.of_all (cs : List Char) (all : (cs.all fun c => !Table.isBareBlank c) = true) :
    Unbroken (utf8 cs) :=
  ⟨cs, rfl, by simpa using all⟩

/-- What a mount has to be in order to be read back as it was. -/
structure Row.ReadsBack (r : Row) : Prop where
  mountPoint : Unbroken r.mountPoint.raw
  device : Unbroken (utf8 r.device.toList)
  options : r.options.chars ≠ ['-']

namespace Table

theorem halves_fields {field : List Char} {fields after : List (List Char)} (first : ' ' ∉ field)
    (apart : ∀ f ∈ fields, ' ' ∉ f ∧ f ≠ ['-']) (more : after ≠ []) :
    halves ([' '].intercalate (field :: fields ++ ['-'] :: after)) =
      some ((field :: fields).flatMap words, after.flatMap words) := by
  have joined : [' '].intercalate (field :: fields ++ ['-'] :: after) =
      field ++ fields.flatMap (' ' :: ·) ++ [' ', '-', ' '] ++ [' '].intercalate after := by
    obtain ⟨next, after, rfl⟩ := List.exists_cons_of_ne_nil more
    rw [List.cons_append, Text.intercalate_cons, Text.intercalate_cons]
    simp
  rw [halves, sides_eq_splitFirst, joined, separator, Text.splitFirst_dash first apart,
    Option.map_some]
  dsimp only
  rw [Text.words_spaced, Text.words_intercalate, List.flatMap_cons]

theorem readDeviceNumber_ofDevice {major minor : Nat} (major_le : major ≤ Text.maxWord32)
    (minor_le : minor ≤ Text.maxWord32) :
    readDeviceNumber (Word.ofDevice major minor).chars = some (major, minor) := by
  have apart : ':' ∉ Nat.toDigits 10 major := fun member =>
    absurd (Text.toDigits_range major ':' member) (by decide)
  rw [readDeviceNumber, Word.ofDevice, Text.splitFirst_at apart]
  simp [Text.readNumeral_toDigits major_le, Text.readNumeral_toDigits minor_le, Except.toOption]

end Table

namespace Row

variable {r : Row} {root mountPoint : List Char}

theorem numbers (r : Row) : Table.readDeviceNumber (Word.ofDevice r.major r.minor).chars =
    some (r.major, r.minor) :=
  Table.readDeviceNumber_ofDevice r.major_le r.minor_le

theorem feed_not_mem {f : List Char} (member : f ∈ r.texts root mountPoint) : '\n' ∉ f := by
  simp only [texts, List.mem_append, List.mem_cons, List.not_mem_nil, or_false, List.mem_map]
    at member
  rcases member with ((rfl | rfl | rfl | rfl | rfl | rfl) | ⟨w, -, rfl⟩) | rfl | rfl | rfl | rfl
  · exact (Word.apart _).2
  · exact (Word.apart _).2
  · exact (Word.apart _).2
  · exact (Table.escapeText_apart _).2
  · exact (Table.escapeText_apart _).2
  · exact (Word.apart _).2
  · exact (Word.apart w).2
  · decide
  · exact (Word.apart _).2
  · exact (Table.escapeText_apart _).2
  · exact (Word.apart _).2

theorem text_whole (r : Row) : '\n' ∉ r.text ∧ r.text.getLast? ≠ some '\r' := by
  constructor
  · intro feed
    rcases Text.mem_intercalate feed with space | ⟨f, member, inside⟩
    · exact absurd space (by decide)
    · exact feed_not_mem member inside
  · rw [text, texts, List.append_cons _ _ [_, _, _], List.append_cons _ _ [_, _],
      List.append_cons _ _ [_], Text.getLast?_intercalate r.superOptions.nonempty]
    intro last
    exact r.superOptions.not_mem_of_blank (by decide) (List.mem_of_getLast? last)

theorem slash_of_absolute {p : Path} {cs : List Char} (absolute : p.isAbsolute = true)
    (spelled : p.raw = utf8 cs) : ∃ rest, cs = '/' :: rest := by
  rw [Path.isAbsolute, spelled, decide_eq_true_eq] at absolute
  cases cs with
  | nil => cases absolute
  | cons c rest =>
    obtain ⟨b, tail, encoded, -⟩ := Text.readChar_encoded c
    rw [Text.utf8_cons, encoded, List.cons_append, List.head?_cons, Option.some.injEq] at absolute
    have member : Path.slash ∈ String.utf8EncodeChar c := by simp [encoded, absolute]
    exact ⟨rest, by rw [Text.eq_of_ascii member (by decide)]; rfl⟩

def lineOf (r : Row) (root mountPoint : List Char) : List Char :=
  [' '].intercalate (r.texts ('/' :: root) ('/' :: mountPoint))

def leading (r : Row) (root mountPoint : List Char) : List (List Char) :=
  [(Word.ofNat r.id).chars, (Word.ofNat r.parent).chars, (Word.ofDevice r.major r.minor).chars] ++
    words (Table.escapeText root) ++ words (Table.escapeText mountPoint)

theorem halves_leading (r : Row) (root mountPoint : List Char) {middle : List Word}
    {after : List (List Char)} (apart : ∀ w ∈ middle, w.chars ≠ ['-']) (more : after ≠ []) :
    Table.halves ([' '].intercalate ([(Word.ofNat r.id).chars, (Word.ofNat r.parent).chars,
        (Word.ofDevice r.major r.minor).chars, Table.escapeText ('/' :: root),
        Table.escapeText ('/' :: mountPoint)] ++ middle.map Word.chars ++ ['-'] :: after)) =
      some (r.leading ('/' :: root) ('/' :: mountPoint) ++ middle.map Word.chars,
        after.flatMap words) := by
  have fields : ∀ f ∈ [(Word.ofNat r.parent).chars, (Word.ofDevice r.major r.minor).chars,
      Table.escapeText ('/' :: root), Table.escapeText ('/' :: mountPoint)] ++
      middle.map Word.chars, ' ' ∉ f ∧ f ≠ ['-'] := by
    intro f member
    simp only [List.mem_append, List.mem_cons, List.not_mem_nil, or_false, List.mem_map] at member
    rcases member with (rfl | rfl | rfl | rfl) | ⟨w, there, rfl⟩
    · exact ⟨(Word.apart _).1, Word.ofNat_ne_dash _⟩
    · exact ⟨(Word.apart _).1, Word.ofDevice_ne_dash _ _⟩
    · exact ⟨(Table.escapeText_apart _).1, Table.escapeText_ne_dash root⟩
    · exact ⟨(Table.escapeText_apart _).1, Table.escapeText_ne_dash mountPoint⟩
    · exact ⟨(Word.apart w).1, apart w there⟩
  have cut := Table.halves_fields (Word.apart (Word.ofNat r.id)).1 fields more
  simpa [leading, Word.words_chars, Word.words_map_chars] using cut

theorem halves_of_options (root mountPoint : List Char) (plain : r.options.chars ≠ ['-']) :
    Table.halves (r.lineOf root mountPoint) =
      some (r.leading ('/' :: root) ('/' :: mountPoint) ++
          r.options.chars :: r.tags.map Word.chars,
        r.fsType.chars :: (words (Table.escapeText r.device.toList) ++
          [r.superOptions.chars])) := by
  have apart : ∀ w ∈ r.options :: r.tags, w.chars ≠ ['-'] := by
    intro w member
    rcases List.mem_cons.mp member with rfl | tag
    · exact plain
    · exact r.tags_apart w tag
  have cut := r.halves_leading root mountPoint apart (List.cons_ne_nil r.fsType.chars
    [Table.escapeText r.device.toList, r.superOptions.chars])
  simpa [lineOf, texts, Word.words_chars] using cut

theorem halves_of_dash (root mountPoint : List Char) (dash : r.options.chars = ['-']) : ∃ after,
    Table.halves (r.lineOf root mountPoint) =
      some (r.leading ('/' :: root) ('/' :: mountPoint), after) := by
  have same : r.texts ('/' :: root) ('/' :: mountPoint) =
      [(Word.ofNat r.id).chars, (Word.ofNat r.parent).chars, (Word.ofDevice r.major r.minor).chars,
        Table.escapeText ('/' :: root), Table.escapeText ('/' :: mountPoint)] ++
        List.map Word.chars [] ++ ['-'] :: (r.tags.map Word.chars ++
          [['-'], r.fsType.chars, Table.escapeText r.device.toList, r.superOptions.chars]) := by
    simp [texts, dash]
  rw [lineOf, same, r.halves_leading root mountPoint (by simp) (by simp), List.map_nil,
    List.append_nil]
  exact ⟨_, rfl⟩

theorem halves_text (r : Row) (root mountPoint : List Char) : ∃ more after,
    Table.halves (r.lineOf root mountPoint) =
      some (r.leading ('/' :: root) ('/' :: mountPoint) ++ more, after) := by
  by_cases dash : r.options.chars = ['-']
  · obtain ⟨after, cut⟩ := halves_of_dash root mountPoint dash
    exact ⟨[], after, by rw [cut, List.append_nil]⟩
  · exact ⟨_, _, halves_of_options root mountPoint dash⟩

theorem not_blank (r : Row) (root mountPoint : List Char) :
    Text.isBlankText (r.lineOf root mountPoint) = false := by
  obtain ⟨c, rest, digits⟩ := List.exists_cons_of_ne_nil (Word.ofNat r.id).nonempty
  have solid := (Word.ofNat r.id).solid (c := c) (by simp [digits])
  simp [lineOf, texts, Text.isBlankText, digits, solid, Text.intercalate_cons]

end Row

namespace Table

variable {line id parent number root mountPoint : List Char} {tags after : List (List Char)}
  {major minor : Nat}

theorem readLine_of_halves {fsType device options : List Char} {more : List (List Char)}
    (not_blank : Text.isBlankText line = false)
    (cut : halves line = some (id :: parent :: number :: root :: mountPoint :: options :: tags,
      fsType :: device :: more)) (numbers : readDeviceNumber number = some (major, minor)) :
    readLine line = .mount
      { device := (fieldBytes device).lossy
        mountPoint := ⟨fieldBytes mountPoint⟩
        fsType := String.ofList fsType
        mountOptions := String.ofList options
        superOptions := String.ofList (more.headD [])
        major := toString major
        minor := toString minor } := by
  simp [readLine, not_blank, cut, numbers]

theorem readLine_cases (not_blank : Text.isBlankText line = false)
    (cut : halves line = some (id :: parent :: number :: root :: mountPoint :: tags, after))
    (numbers : readDeviceNumber number = some (major, minor)) :
    readLine line = .malformed ∨
      ∃ l, readLine line = .mount l ∧ l.mountPoint = ⟨fieldBytes mountPoint⟩ ∧ tags ≠ [] := by
  cases tags with
  | nil => exact .inl (by simp [readLine, not_blank, cut])
  | cons options tags =>
    match after with
    | [] => exact .inl (by simp [readLine, not_blank, cut])
    | [fsType] => exact .inl (by simp [readLine, not_blank, cut])
    | fsType :: device :: more =>
      exact .inr ⟨_, readLine_of_halves not_blank cut numbers, rfl, by simp⟩

end Table

namespace Row

variable {r : Row} {root mountPoint : List Char}

theorem readLine_text (r : Row) (root mountPoint : List Char) :
    Table.readLine (r.lineOf root mountPoint) = .malformed ∨
      ∃ l, Table.readLine (r.lineOf root mountPoint) = .mount l := by
  -- A blank in the root shifts the words after it, but the number stands before it.
  obtain ⟨more, after, cut⟩ := r.halves_text root mountPoint
  obtain ⟨first, fields, root_words, -⟩ := Table.words_of_slash root
  obtain ⟨stretch, later, mountPoint_words, -⟩ := Table.words_of_slash mountPoint
  obtain ⟨fifth, rest, shape⟩ := List.exists_cons_of_ne_nil
    (l := fields ++ Table.escapeText stretch :: later ++ more) (by simp)
  have begun : r.leading ('/' :: root) ('/' :: mountPoint) ++ more =
      (Word.ofNat r.id).chars :: (Word.ofNat r.parent).chars ::
        (Word.ofDevice r.major r.minor).chars :: Table.escapeText first :: fifth :: rest := by
    rw [← shape, leading, root_words, mountPoint_words]
    simp
  rw [begun] at cut
  rcases Table.readLine_cases (r.not_blank _ _) cut r.numbers with malformed | ⟨l, mount, -⟩
  · exact .inl malformed
  · exact .inr ⟨l, mount⟩

theorem leading_of_root (solid : ∀ c ∈ '/' :: root, Table.isBareBlank c = false) :
    r.leading ('/' :: root) mountPoint =
      (Word.ofNat r.id).chars :: (Word.ofNat r.parent).chars ::
        (Word.ofDevice r.major r.minor).chars :: Table.escapeText ('/' :: root) ::
        words (Table.escapeText mountPoint) := by
  rw [leading, Table.words_of_no_bare (by simp) solid]
  rfl

section

variable (solid : ∀ c ∈ '/' :: root, Table.isBareBlank c = false)

include solid

theorem unbroken_of_read
    (read : Table.readLine (r.lineOf root mountPoint) = .mount r.label) :
    Unbroken r.mountPoint.raw := by
  obtain ⟨more, after, cut⟩ := r.halves_text root mountPoint
  obtain ⟨stretch, later, found, unbroken⟩ := Table.words_of_slash mountPoint
  rw [leading_of_root solid, found] at cut
  rcases Table.readLine_cases (r.not_blank _ _) cut r.numbers with malformed | ⟨l, mount, place, -⟩
  · rw [read] at malformed
    cases malformed
  · cases Table.Line.mount.inj (read.symm.trans mount)
    refine ⟨stretch, ?_, unbroken⟩
    rw [← Table.fieldBytes_escapeText]
    exact congrArg Path.raw place

theorem options_of_read (whole : ∀ c ∈ '/' :: mountPoint, Table.isBareBlank c = false)
    (read : Table.readLine (r.lineOf root mountPoint) = .mount r.label) :
    r.options.chars ≠ ['-'] := by
  intro dash
  obtain ⟨after, cut⟩ := halves_of_dash root mountPoint dash
  rw [leading_of_root solid, Table.words_of_no_bare (by simp) whole] at cut
  rcases Table.readLine_cases (r.not_blank _ _) cut r.numbers with malformed | ⟨l, -, -, more⟩
  · rw [read] at malformed
    cases malformed
  · exact more rfl

theorem device_of_read (whole : ∀ c ∈ '/' :: mountPoint, Table.isBareBlank c = false)
    (plain : r.options.chars ≠ ['-'])
    (read : Table.readLine (r.lineOf root mountPoint) = .mount r.label) :
    Unbroken (utf8 r.device.toList) := by
  have cut := halves_of_options root mountPoint plain
  rw [leading_of_root solid, Table.words_of_no_bare (by simp) whole] at cut
  rcases Table.words_escapeText r.device.toList with ⟨-, none⟩ | ⟨stretch, more, found, unbroken⟩
  -- A device of such blanks only is no word, and the last options are taken for it.
  · rw [none] at cut
    have mount := Table.readLine_of_halves (r.not_blank _ _) cut r.numbers
    have same := Table.Line.mount.inj (read.symm.trans mount)
    have empty : r.superOptions.chars = [] :=
      String.ofList_injective (congrArg Label.superOptions same)
    exact absurd empty r.superOptions.nonempty
  · rw [found] at cut
    have mount := Table.readLine_of_halves (r.not_blank _ _) cut r.numbers
    have same := congrArg Label.device (Table.Line.mount.inj (read.symm.trans mount))
    rw [Table.fieldBytes_escapeText, Text.lossy_utf8] at same
    exact ⟨stretch, by rw [show r.device = String.ofList stretch from same, String.toList_ofList],
      unbroken⟩

theorem read_of_readsBack (mountPoint_text : r.mountPoint.raw = utf8 ('/' :: mountPoint))
    (ok : r.ReadsBack) :
    Table.readLine (r.lineOf root mountPoint) = .mount r.label := by
  obtain ⟨cs, spelled, whole⟩ := ok.mountPoint
  obtain rfl := Text.utf8_injective (mountPoint_text.symm.trans spelled)
  obtain ⟨ds, device, unbroken⟩ := ok.device
  obtain rfl := Text.utf8_injective device
  have cut := halves_of_options root mountPoint ok.options
  have some : r.device.toList ≠ [] := by simpa using r.device_nonempty
  rw [leading_of_root solid, Table.words_of_no_bare (by simp) whole,
    Table.words_of_no_bare some unbroken] at cut
  have mount := Table.readLine_of_halves (r.not_blank _ _) cut r.numbers
  rw [Table.fieldBytes_escapeText, Table.fieldBytes_escapeText, Text.lossy_utf8,
    String.ofList_toList, ← mountPoint_text] at mount
  exact mount

end

theorem readLine_eq_label_iff (mountPoint_text : r.mountPoint.raw = utf8 ('/' :: mountPoint))
    (solid : ∀ c ∈ '/' :: root, Table.isBareBlank c = false) :
    Table.readLine (r.lineOf root mountPoint) = .mount r.label ↔ r.ReadsBack := by
  refine ⟨fun read => ?_, read_of_readsBack solid mountPoint_text⟩
  obtain ⟨cs, spelled, whole⟩ := unbroken_of_read solid read
  obtain rfl := Text.utf8_injective (mountPoint_text.symm.trans spelled)
  have plain := options_of_read solid whole read
  exact ⟨⟨_, spelled, whole⟩, device_of_read solid whole plain read, plain⟩

end Row

namespace Table

def Line.label? : Line → Option Label
  | .mount l => some l
  | _ => none

theorem readLines_mounts {ls : List (List Char)}
    (fair : ∀ line ∈ ls, readLine line = .malformed ∨ ∃ l, readLine line = .mount l)
    (number : Nat) :
    (readLines number ls).mounts = .ok (ls.filterMap fun line => (readLine line).label?) := by
  induction ls generalizing number with
  | nil => rfl
  | cons line ls ih =>
    have later := ih fun x member => fair x (List.mem_cons_of_mem _ member)
    rcases fair line List.mem_cons_self with malformed | ⟨l, mount⟩
    · rw [readLines, malformed, List.filterMap_cons, malformed]
      exact later (number + 1)
    · rw [readLines, mount, List.filterMap_cons, mount]
      dsimp only
      rw [later (number + 1)]
      rfl

theorem label?_eq_some {line : Line} {l : Label} : line.label? = some l ↔ line = .mount l := by
  cases line <;> simp [Line.label?]

end Table

namespace Row

theorem text_eq {r : Row} (texts : r.IsText) : ∃ root mountPoint,
    r.root.raw = utf8 ('/' :: root) ∧ r.mountPoint.raw = utf8 ('/' :: mountPoint) ∧
      r.text = r.lineOf root mountPoint := by
  obtain ⟨⟨cs, root_text⟩, ⟨ds, mountPoint_text⟩⟩ := texts
  obtain ⟨root, rfl⟩ := slash_of_absolute r.root_absolute root_text
  obtain ⟨mountPoint, rfl⟩ := slash_of_absolute r.mountPoint_absolute mountPoint_text
  refine ⟨root, mountPoint, root_text, mountPoint_text, ?_⟩
  rw [text, lineOf, root_text, mountPoint_text, Text.decodeLossy_utf8, Text.decodeLossy_utf8]

theorem label?_text {r : Row} (texts : r.IsText) (unbroken : Unbroken r.root.raw) :
    (Table.readLine r.text).label? = some r.label ↔ r.ReadsBack := by
  obtain ⟨root, mountPoint, root_text, mountPoint_text, same⟩ := text_eq texts
  obtain ⟨cs, spelled, solid⟩ := unbroken
  obtain rfl := Text.utf8_injective (root_text.symm.trans spelled)
  rw [Table.label?_eq_some, same, readLine_eq_label_iff mountPoint_text solid]

end Row

namespace Source

variable {s : Source} {read : Path → Except IoFault Bytes} {p : Path} {rows : List Row}

theorem mounts_of_texts (plain : s.root.isPlain = true) (found : s.Finds read p (document rows))
    (texts : ∀ r ∈ rows, r.IsText) :
    (s.mounts read).mounts =
      .ok (rows.filterMap fun r => (Table.readLine r.text).label?) := by
  have decoded := Text.decode?_eq_some.mpr (document_eq texts)
  have cut : Text.lines (rows.flatMap fun r => r.text ++ ['\n']) = rows.map Row.text := by
    have whole : ∀ line ∈ rows.map Row.text, '\n' ∉ line ∧ line.getLast? ≠ some '\r' := by
      intro line member
      obtain ⟨r, -, rfl⟩ := List.mem_map.mp member
      exact r.text_whole
    rw [← Text.lines_flatMap whole, List.flatMap_map]
  have fair : ∀ line ∈ rows.map Row.text,
      Table.readLine line = .malformed ∨ ∃ l, Table.readLine line = .mount l := by
    intro line member
    obtain ⟨r, there, rfl⟩ := List.mem_map.mp member
    obtain ⟨root, mountPoint, -, -, same⟩ := Row.text_eq (texts r there)
    rw [same]
    exact r.readLine_text root mountPoint
  have all := Table.readLines_mounts fair 1
  rw [mounts, tableText_of_finds found, decoded]
  dsimp only
  rw [Table.read, cut, all, List.filterMap_map]
  simp [Except.map, HostRoot.hostName, plain]

theorem mounts_of_no_text (found : s.Finds read p (document rows))
    (no_text : ¬ ∀ r ∈ rows, r.IsText) : (s.mounts read).mounts = .error (.io p .notText) := by
  have undecoded := Text.decode?_eq_none.mpr (mt isText_document.mp no_text)
  rw [mounts, tableText_of_finds found, undecoded]

/-- What is read of the table that the kernel prints of some mounts. The reading fails just if a
path is no text. If the roots hold no blank that is kept, the same mounts are read just if each of
them can be read back. -/
theorem mounts_of_document (plain : s.root.isPlain = true)
    (found : s.Finds read p (document rows)) :
    ((∃ labels, (s.mounts read).mounts = .ok labels) ↔ ∀ r ∈ rows, r.IsText) ∧
    ((¬ ∀ r ∈ rows, r.IsText) → (s.mounts read).mounts = .error (.io p .notText)) ∧
    ((∀ r ∈ rows, Unbroken r.root.raw) →
      ((s.mounts read).mounts = .ok (rows.map Row.label) ↔ ∀ r ∈ rows, r.ReadsBack)) := by
  by_cases texts : ∀ r ∈ rows, r.IsText
  · have all := mounts_of_texts plain found texts
    refine ⟨⟨fun _ => texts, fun _ => ⟨_, all⟩⟩, fun no_text => absurd texts no_text, ?_⟩
    intro unbroken
    rw [all, Except.ok.injEq, List.filterMap_eq_map_iff_forall_eq_some]
    exact forall₂_congr fun r member => Row.label?_text (texts r member) (unbroken r member)
  · have fails := mounts_of_no_text found texts
    refine ⟨⟨?_, fun all => absurd all texts⟩, fun _ => fails, fun unbroken => ⟨?_, ?_⟩⟩
    · rintro ⟨labels, read⟩
      rw [fails] at read
      cases read
    · intro read
      rw [fails] at read
      cases read
    · intro ok
      refine absurd (fun r member => ?_) texts
      obtain ⟨root, spelled, -⟩ := unbroken r member
      obtain ⟨mountPoint, spelled', -⟩ := (ok r member).mountPoint
      exact ⟨⟨root, spelled⟩, ⟨mountPoint, spelled'⟩⟩

def procSource : Source :=
  ⟨Path.ofString "/proc", ⟨Path.ofString "/"⟩⟩

def printedRow : Row where
  id := 36
  parent := 35
  major := 98
  minor := 0
  root := Path.ofString "/sub"
  mountPoint := Path.ofString "/mnt/a b\\040\tc"
  options := ⟨['r', 'w'], by decide, by decide⟩
  tags := [⟨['m', ':', '1'], by decide, by decide⟩, ⟨['s', ':', '2'], by decide, by decide⟩]
  fsType := ⟨['n', 'f', 's'], by decide, by decide⟩
  device := "disk one"
  superOptions := ⟨['r', 'o'], by decide, by decide⟩
  major_le := by decide
  minor_le := by decide
  root_absolute := by decide
  mountPoint_absolute := by decide
  tags_apart := by decide
  device_nonempty := by decide

theorem mounts_of_printedRow :
    procSource.root.isPlain = true ∧
    procSource.Finds (fun _ => .ok (document [printedRow])) procSource.primary
      (document [printedRow]) ∧
    (procSource.mounts fun _ => .ok (document [printedRow])).mounts = .ok [printedRow.label] := by
  have found : procSource.Finds (fun _ => .ok (document [printedRow])) procSource.primary
      (document [printedRow]) := .primary rfl
  have plain : procSource.root.isPlain = true := by decide
  refine ⟨plain, found, ((mounts_of_document plain found).2.2 ?_).mpr ?_⟩
  · intro r member
    rw [List.mem_singleton.mp member]
    exact .of_all "/sub".toList (by decide)
  · intro r member
    rw [List.mem_singleton.mp member]
    exact ⟨.of_all "/mnt/a b\\040\tc".toList (by decide), .of_all _ (by decide), by decide⟩

/-- A no-break space in a mount point. -/
def rowWithBlank : Row :=
  { printedRow with
    mountPoint := Path.ofString "/a\u00a0b"
    mountPoint_absolute := by decide }

/-- The table that the kernel prints need not be read back. -/
theorem blank_shifts_the_options :
    ¬ ∀ (s : Source) (read : Path → Except IoFault Bytes) (p : Path) (rows : List Row),
      s.root.isPlain = true → s.Finds read p (document rows) →
      (s.mounts read).mounts = .ok (rows.map Row.label) := by
  intro claim
  have whole := claim procSource (fun _ => .ok (document [rowWithBlank])) procSource.primary
    [rowWithBlank] (by decide) (.primary rfl)
  have shifted : ((procSource.mounts fun _ => .ok (document [rowWithBlank])).mounts.toOption.map
      fun labels => labels.map (·.mountOptions)) = some ["b"] := by
    decide +kernel
  rw [whole] at shifted
  exact absurd shifted (by decide)

end Source

end MountProbe.Mount
