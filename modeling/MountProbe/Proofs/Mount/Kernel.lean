import MountProbe.Proofs.Mount.Escape

namespace MountProbe.Mount

open Text (utf8 isBlank words)

/-- A word of the table: printable ASCII, and no space. -/
structure Word where
  chars : List Char
  nonempty : chars ≠ []
  graphic : chars.all (fun c => '!' ≤ c && c ≤ '~') = true

namespace Word

def bytes (w : Word) : Bytes :=
  utf8 w.chars

theorem graphic_of_digit {c : Char} (digit : '0' ≤ c ∧ c ≤ '9') :
    ('!' ≤ c && c ≤ '~') = true := by
  have low : '!' ≤ c := Char.le_trans (by decide) digit.1
  have high : c ≤ '~' := Char.le_trans digit.2 (by decide)
  simp [low, high]

def ofNat (n : Nat) : Word where
  chars := Nat.toDigits 10 n
  nonempty := Text.toDigits_ne_nil n
  graphic := List.all_eq_true.mpr fun c member =>
    graphic_of_digit (Text.toDigits_range n c member)

/-- The number of a device: major and minor. -/
def ofDevice (major minor : Nat) : Word where
  chars := Nat.toDigits 10 major ++ ':' :: Nat.toDigits 10 minor
  nonempty := by simp
  graphic := List.all_eq_true.mpr fun c member => by
    rcases List.mem_append.mp member with first | later
    · exact graphic_of_digit (Text.toDigits_range major c first)
    · rcases List.mem_cons.mp later with rfl | second
      · decide
      · exact graphic_of_digit (Text.toDigits_range minor c second)

theorem solid (w : Word) {c : Char} (member : c ∈ w.chars) : isBlank c = false := by
  have graphic := List.all_eq_true.mp w.graphic c member
  simp only [Bool.and_eq_true, decide_eq_true_eq] at graphic
  obtain ⟨low, high⟩ := graphic
  have above : 33 ≤ c.toNat := low
  have below : c.toNat ≤ 126 := high
  simp only [Text.isBlank, Bool.or_eq_false_iff, Bool.and_eq_false_iff, decide_eq_false_iff_not,
    beq_eq_false_iff_ne]
  omega

theorem words_chars (w : Word) : words w.chars = [w.chars] :=
  Text.words_of_solid w.nonempty fun _ member => w.solid member

theorem words_map_chars (ws : List Word) :
    (ws.map chars).flatMap words = ws.map chars := by
  induction ws with
  | nil => rfl
  | cons w ws ih => rw [List.map_cons, List.flatMap_cons, words_chars, ih, List.singleton_append]

theorem ofNat_ne_dash (n : Nat) : (ofNat n).chars ≠ ['-'] := by
  intro dash
  have digit := Text.toDigits_range n '-' (by rw [show Nat.toDigits 10 n = ['-'] from dash]; simp)
  exact absurd digit (by decide)

theorem ofDevice_ne_dash (major minor : Nat) : (ofDevice major minor).chars ≠ ['-'] := by
  intro dash
  have colon : ':' ∈ (ofDevice major minor).chars := by simp [ofDevice]
  rw [dash] at colon
  exact absurd colon (by decide)

theorem not_mem_of_blank (w : Word) {c : Char} (blank : isBlank c = true) : c ∉ w.chars :=
  fun member => by simp [w.solid member] at blank

theorem apart (w : Word) : ' ' ∉ w.chars ∧ '\n' ∉ w.chars :=
  ⟨w.not_mem_of_blank (by decide), w.not_mem_of_blank (by decide)⟩

end Word

/-- A mount as the kernel has it. -/
structure Row where
  id : Nat
  parent : Nat
  major : Nat
  minor : Nat
  root : Path
  mountPoint : Path
  options : Word
  tags : List Word
  fsType : Word
  device : String
  superOptions : Word
  major_le : major ≤ Text.maxWord32
  minor_le : minor ≤ Text.maxWord32
  root_absolute : root.isAbsolute = true
  mountPoint_absolute : mountPoint.isAbsolute = true
  tags_apart : ∀ t ∈ tags, t.chars ≠ ['-']
  device_nonempty : device ≠ ""

namespace Row

/-- The fields of a line; a lone dash ends the tags. -/
def fields (r : Row) : List Bytes :=
  [(Word.ofNat r.id).bytes, (Word.ofNat r.parent).bytes, (Word.ofDevice r.major r.minor).bytes,
    Table.escape r.root.raw, Table.escape r.mountPoint.raw, r.options.bytes] ++
  r.tags.map Word.bytes ++
  [utf8 ['-'], r.fsType.bytes, Table.escape (utf8 r.device.toList), r.superOptions.bytes]

def line (r : Row) : Bytes :=
  [0x20].intercalate r.fields

/-- What is to be read of a mount. -/
def label (r : Row) : Label where
  device := r.device
  mountPoint := r.mountPoint
  fsType := String.ofList r.fsType.chars
  mountOptions := String.ofList r.options.chars
  superOptions := String.ofList r.superOptions.chars
  major := toString r.major
  minor := toString r.minor

def IsText (r : Row) : Prop :=
  Text.IsText r.root.raw ∧ Text.IsText r.mountPoint.raw

end Row

/-- The table that the kernel prints of some mounts. -/
def document (rows : List Row) : Bytes :=
  rows.flatMap fun r => r.line ++ [0x0A]

namespace Row

variable {r : Row}

/-- The fields of a line as characters, when the paths spell some. -/
def texts (r : Row) (root mountPoint : List Char) : List (List Char) :=
  [(Word.ofNat r.id).chars, (Word.ofNat r.parent).chars, (Word.ofDevice r.major r.minor).chars,
    Table.escapeText root, Table.escapeText mountPoint, r.options.chars] ++
  r.tags.map Word.chars ++
  [['-'], r.fsType.chars, Table.escapeText r.device.toList, r.superOptions.chars]

theorem fields_of_texts {root mountPoint : List Char} (root_text : r.root.raw = utf8 root)
    (mountPoint_text : r.mountPoint.raw = utf8 mountPoint) :
    r.fields = (r.texts root mountPoint).map utf8 := by
  simp [fields, texts, root_text, mountPoint_text, Table.escape_utf8, Word.bytes, Function.comp_def]

def text (r : Row) : List Char :=
  [' '].intercalate
    (r.texts (Text.decodeLossy r.root.raw) (Text.decodeLossy r.mountPoint.raw))

theorem line_eq (text : r.IsText) : r.line = utf8 r.text := by
  rw [line, fields_of_texts (Text.utf8_decodeLossy text.1) (Text.utf8_decodeLossy text.2),
    Row.text, Text.utf8_intercalate]

theorem isText_line : Text.IsText r.line ↔ r.IsText := by
  constructor
  · intro whole
    rw [line, Text.isText_intercalate] at whole
    constructor
    · exact Table.isText_escape.mp (whole _ (by simp [fields]))
    · exact Table.isText_escape.mp (whole _ (by simp [fields]))
  · exact fun paths => ⟨_, line_eq paths⟩

end Row

theorem document_cons (r : Row) (rows : List Row) :
    document (r :: rows) = r.line ++ 0x0A :: document rows := by
  simp [document]

theorem isText_document {rows : List Row} :
    Text.IsText (document rows) ↔ ∀ r ∈ rows, r.IsText := by
  induction rows with
  | nil => exact ⟨fun _ => by simp, fun _ => Text.isText_nil⟩
  | cons r rows ih =>
    rw [document_cons, Text.isText_append_cons (by decide), Row.isText_line, ih]
    simp

theorem document_eq {rows : List Row} (texts : ∀ r ∈ rows, r.IsText) :
    document rows = utf8 (rows.flatMap fun r => r.text ++ ['\n']) := by
  induction rows with
  | nil => rfl
  | cons r rows ih =>
    rw [document_cons, Row.line_eq (texts r List.mem_cons_self),
      ih fun x member => texts x (List.mem_cons_of_mem _ member)]
    simp
    rfl

end MountProbe.Mount
