import MountProbe.Mount.Table
import Mathlib.Logic.ExistsUnique

/-! A field of the table, byte by byte. A byte may be written as a backslash and three octal digits,
and a backslash has to be; whichever bytes are, reading gives all of them back. Any text is read in
one pass: it is cut into escapes and single bytes, each of which gives one byte. -/
namespace MountProbe.Mount.Table

open Text (utf8)

/-- Three octal digits that make a byte. -/
structure Escape where
  high : Fin 8
  mid : Fin 8
  low : Fin 8
  is_byte : 64 * high.val + 8 * mid.val + low.val < 256

namespace Escape

def digit (d : Fin 8) : UInt8 :=
  0x30 + UInt8.ofNat d

def text (e : Escape) : Bytes :=
  [0x5C, digit e.high, digit e.mid, digit e.low]

def number (e : Escape) : Nat :=
  64 * e.high + 8 * e.mid + e.low

def byte (e : Escape) : UInt8 :=
  UInt8.ofNat e.number

/-- The escape of a byte. -/
def ofByte (b : UInt8) : Escape where
  high := ⟨b.toNat / 64, by have := b.toNat_lt; omega⟩
  mid := ⟨b.toNat / 8 % 8, by omega⟩
  low := ⟨b.toNat % 8, by omega⟩
  is_byte := by have := b.toNat_lt; dsimp only; omega

theorem byte_ofByte (b : UInt8) : (ofByte b).byte = b := by
  have whole : (ofByte b).number = b.toNat := by
    dsimp only [number, ofByte]
    omega
  rw [byte, whole]
  exact UInt8.ofNat_toNat

theorem toNat_digit (d : Fin 8) : (digit d).toNat = 48 + d.val := by
  revert d
  decide

theorem eq_of_text {e f : Escape} (same : e.text = f.text) : e = f := by
  have digits : ∀ x y : Fin 8, digit x = digit y → x = y := by decide
  obtain ⟨x, y, z, range⟩ := e
  obtain ⟨x', y', z', range'⟩ := f
  simp only [text, List.cons.injEq] at same
  obtain ⟨-, high, mid, low, -⟩ := same
  obtain rfl := digits _ _ high
  obtain rfl := digits _ _ mid
  obtain rfl := digits _ _ low
  rfl

end Escape

theorem isOctal_iff {b : UInt8} : isOctal b = true ↔ ∃ d, b = Escape.digit d := by
  constructor
  · intro octal
    simp only [isOctal, Bool.and_eq_true, decide_eq_true_eq, UInt8.le_iff_toNat_le] at octal
    obtain ⟨least, most⟩ := octal
    change 48 ≤ b.toNat at least
    change b.toNat ≤ 55 at most
    refine ⟨⟨b.toNat - 48, by omega⟩, ?_⟩
    apply UInt8.toNat_inj.mp
    rw [Escape.toNat_digit]
    dsimp only
    omega
  · rintro ⟨d, rfl⟩
    revert d
    decide

theorem isEscape_iff {a b c : UInt8} :
    isEscape a b c = true ↔ ∃ e : Escape, e.text = [0x5C, a, b, c] := by
  have range : ∀ x y z : Fin 8, (Escape.digit x ≤ 0x33) ↔ 64 * x.val + 8 * y.val + z.val < 256 := by
    intro x y z
    rw [UInt8.le_iff_toNat_le, Escape.toNat_digit]
    change 48 + x.val ≤ 51 ↔ _
    omega
  simp only [isEscape, Bool.and_eq_true, decide_eq_true_eq, isOctal_iff]
  constructor
  · rintro ⟨⟨⟨⟨x, rfl⟩, y, rfl⟩, z, rfl⟩, small⟩
    exact ⟨⟨x, y, z, (range x y z).mp small⟩, rfl⟩
  · rintro ⟨⟨x, y, z, is_byte⟩, same⟩
    simp only [Escape.text, List.cons.injEq] at same
    obtain ⟨-, rfl, rfl, rfl, -⟩ := same
    exact ⟨⟨⟨⟨x, rfl⟩, y, rfl⟩, z, rfl⟩, (range x y z).mpr is_byte⟩

/-- What a byte of a field is read from. -/
inductive Piece where
  | escape (e : Escape)
  | single (b : UInt8)

def Piece.value : Piece → UInt8
  | .escape e => e.byte
  | .single b => b

/-- A text begins with an escape. -/
def Escapes (text : Bytes) : Prop :=
  ∃ e : Escape, e.text <+: text

/-- A text cut into pieces from its start on, with an escape taken wherever one begins. -/
inductive Cut : Bytes → List Piece → Prop where
  | nil : Cut [] []
  | escape {text : Bytes} {ps : List Piece} (e : Escape) :
    Cut text ps → Cut (e.text ++ text) (.escape e :: ps)
  | single {b : UInt8} {text : Bytes} {ps : List Piece} :
    ¬ Escapes (b :: text) → Cut text ps → Cut (b :: text) (.single b :: ps)

/-- A byte string as it may be written: a backslash as its escape, any other byte as its escape or
as it is. -/
inductive Written : Bytes → Bytes → Prop where
  | nil : Written [] []
  | escape {bytes text : Bytes} (b : UInt8) :
    Written bytes text → Written (b :: bytes) ((Escape.ofByte b).text ++ text)
  | kept {b : UInt8} {bytes text : Bytes} :
    b ≠ 0x5C → Written bytes text → Written (b :: bytes) (b :: text)

/-! Arithmetic of bytes that notices when a result is no byte. -/

def minus? (a b : UInt8) : Option UInt8 :=
  if b ≤ a then some (a - b) else none

def times? (a b : UInt8) : Option UInt8 :=
  if a.toNat * b.toNat < 256 then some (a * b) else none

def plus? (a b : UInt8) : Option UInt8 :=
  if a.toNat + b.toNat < 256 then some (a + b) else none

def escapedByte? (a b c : UInt8) : Option UInt8 := do
  let high ← times? (← minus? a 0x30) 64
  let mid ← times? (← minus? b 0x30) 8
  plus? (← plus? high mid) (← minus? c 0x30)

/-- Reading with this arithmetic. -/
def unescape? : Bytes → Option Bytes
  | 0x5C :: a :: b :: c :: rest =>
    if isEscape a b c then do return (← escapedByte? a b c) :: (← unescape? rest)
    else (unescape? (a :: b :: c :: rest)).map (0x5C :: ·)
  | x :: rest => (unescape? rest).map (x :: ·)
  | [] => some []

theorem escapedByte?_digits (e : Escape) :
    escapedByte? (Escape.digit e.high) (Escape.digit e.mid) (Escape.digit e.low) = some e.byte := by
  obtain ⟨x, y, z, is_byte⟩ := e
  have minus : ∀ d : Fin 8, minus? (Escape.digit d) 0x30 = some (UInt8.ofNat d) := by decide
  have value : ∀ n, n < 256 → (UInt8.ofNat n).toNat = n := by
    intro n small
    rw [UInt8.toNat_ofNat', Nat.mod_eq_of_lt small]
  have times : ∀ (d : Fin 8) (k : Nat), d.val * k < 256 → k < 256 →
      times? (UInt8.ofNat d) (UInt8.ofNat k) = some (UInt8.ofNat (d * k)) := by
    intro d k small factor
    rw [times?, value d (by omega), value k factor, if_pos small, UInt8.ofNat_mul]
  have plus : ∀ m n, m + n < 256 →
      plus? (UInt8.ofNat m) (UInt8.ofNat n) = some (UInt8.ofNat (m + n)) := by
    intro m n small
    rw [plus?, value m (by omega), value n (by omega), if_pos small, UInt8.ofNat_add]
  have high := times x 64 (by omega) (by omega)
  have mid := times y 8 (by omega) (by omega)
  have both := plus (x * 64) (y * 8) (by omega)
  have all := plus (x * 64 + y * 8) z (by omega)
  simp only [escapedByte?, minus, Option.bind_eq_bind, Option.bind_some]
  rw [show (64 : UInt8) = UInt8.ofNat 64 from rfl, high, Option.bind_some,
    show (8 : UInt8) = UInt8.ofNat 8 from rfl, mid, Option.bind_some, both, Option.bind_some, all]
  exact congrArg (fun n => some (UInt8.ofNat n)) (by dsimp only [Escape.number]; omega)

theorem eq_of_escapedByte? {a b c r : UInt8} (given : escapedByte? a b c = some r) :
    r = escapedByte a b c := by
  simp only [escapedByte?, minus?, times?, plus?, Option.bind_eq_bind, Option.bind_eq_some_iff,
    Option.ite_none_right_eq_some, Option.some.injEq] at given
  obtain ⟨_, ⟨-, rfl⟩, _, ⟨-, rfl⟩, _, ⟨-, rfl⟩, given⟩ := given
  obtain ⟨_, ⟨-, rfl⟩, _, ⟨-, rfl⟩, _, ⟨-, rfl⟩, -, rfl⟩ := given
  rfl

theorem escapedByte_digits (e : Escape) :
    escapedByte (Escape.digit e.high) (Escape.digit e.mid) (Escape.digit e.low) = e.byte :=
  (eq_of_escapedByte? (escapedByte?_digits e)).symm

theorem isEscape_digits (e : Escape) :
    isEscape (Escape.digit e.high) (Escape.digit e.mid) (Escape.digit e.low) = true :=
  isEscape_iff.mpr ⟨e, rfl⟩

theorem unescape_escape_append (e : Escape) (text : Bytes) :
    unescape (e.text ++ text) = e.byte :: unescape text := by
  change unescape (0x5C :: _ :: _ :: _ :: text) = _
  rw [unescape, if_pos (isEscape_digits e), escapedByte_digits]

theorem unescape_single {b : UInt8} {text : Bytes} (plain : ¬ Escapes (b :: text)) :
    unescape (b :: text) = b :: unescape text := by
  by_cases long : ∃ a c d rest, b = 0x5C ∧ text = a :: c :: d :: rest
  · obtain ⟨a, c, d, rest, rfl, rfl⟩ := long
    rw [unescape, if_neg]
    intro escape
    obtain ⟨e, spelled⟩ := isEscape_iff.mp escape
    exact plain ⟨e, spelled ▸ ⟨rest, rfl⟩⟩
  · rw [unescape]
    intro a c d rest backslash digits
    exact long ⟨a, c, d, rest, backslash, digits⟩

theorem unescape_of_cut {text : Bytes} {ps : List Piece} (cut : Cut text ps) :
    unescape text = ps.map Piece.value := by
  induction cut with
  | nil => rfl
  | escape e cut ih => rw [unescape_escape_append, ih, List.map_cons, Piece.value]
  | single plain cut ih => rw [unescape_single plain, ih, List.map_cons, Piece.value]

theorem cut_escape {e : Escape} {text : Bytes} {ps : List Piece}
    (cut : Cut (e.text ++ text) ps) : ∃ qs, ps = .escape e :: qs ∧ Cut text qs := by
  generalize spelled : e.text ++ text = whole at cut
  cases cut with
  | nil => cases spelled
  | escape f cut =>
    have length : e.text.length = f.text.length := rfl
    obtain ⟨same, rfl⟩ := List.append_inj spelled length
    obtain rfl := Escape.eq_of_text same
    exact ⟨_, rfl, cut⟩
  | single plain cut => exact absurd ⟨e, spelled ▸ List.prefix_append e.text text⟩ plain

theorem cut_single {b : UInt8} {text : Bytes} {ps : List Piece} (plain : ¬ Escapes (b :: text))
    (cut : Cut (b :: text) ps) : ∃ qs, ps = .single b :: qs ∧ Cut text qs := by
  generalize spelled : b :: text = whole at cut
  cases cut with
  | nil => cases spelled
  | escape e cut => exact absurd ⟨e, spelled ▸ List.prefix_append e.text _⟩ plain
  | single _ cut =>
    obtain ⟨rfl, rfl⟩ := List.cons.inj spelled
    exact ⟨_, rfl, cut⟩

theorem cut_unique {text : Bytes} {ps qs : List Piece} (first : Cut text ps)
    (second : Cut text qs) : qs = ps := by
  induction first generalizing qs with
  | nil =>
    cases second with
    | nil => rfl
  | escape e cut ih =>
    obtain ⟨rest, rfl, later⟩ := cut_escape second
    rw [ih later]
  | single plain cut ih =>
    obtain ⟨rest, rfl, later⟩ := cut_single plain second
    rw [ih later]

theorem exists_cut (text : Bytes) : ∃ ps, Cut text ps := by
  -- What follows a piece is shorter than the text.
  induction length : text.length using Nat.strongRecOn generalizing text with
  | ind n ih =>
    by_cases begun : Escapes text
    · obtain ⟨e, rest, rfl⟩ := begun
      have shorter : rest.length < n := by
        rw [← length, List.length_append]
        exact Nat.lt_add_of_pos_left (Nat.succ_pos 3)
      obtain ⟨ps, cut⟩ := ih _ shorter rest rfl
      exact ⟨_, .escape e cut⟩
    · cases text with
      | nil => exact ⟨_, .nil⟩
      | cons b rest =>
        obtain ⟨ps, cut⟩ := ih _ (by rw [← length]; exact Nat.lt_succ_self _) rest rfl
        exact ⟨_, .single begun cut⟩

theorem unescape?_eq (text : Bytes) : unescape? text = some (unescape text) := by
  fun_induction unescape text with
  | case1 a b c rest escape ih =>
    obtain ⟨e, spelled⟩ := isEscape_iff.mp escape
    simp only [Escape.text, List.cons.injEq] at spelled
    obtain ⟨-, rfl, rfl, rfl, -⟩ := spelled
    rw [unescape?, if_pos escape, escapedByte?_digits, escapedByte_digits, ih]
    rfl
  | case2 a b c rest no_escape ih =>
    rw [unescape?, if_neg no_escape, ih]
    rfl
  | case3 x rest short ih =>
    rw [unescape?, ih]
    · rfl
    · exact short
  | case4 => rfl

theorem unescape_of_written {bytes text : Bytes} (written : Written bytes text) :
    unescape text = bytes := by
  induction written with
  | nil => rfl
  | escape b written ih => rw [unescape_escape_append, Escape.byte_ofByte, ih]
  | kept no_backslash written ih =>
    rw [unescape_single, ih]
    rintro ⟨e, begun⟩
    obtain ⟨backslash, -⟩ := List.cons_prefix_cons.mp begun
    exact no_backslash backslash.symm

/-- A field gives back the bytes that were written in it. Any field is cut in one way, each piece
gives one byte, and the arithmetic stays within the byte. -/
theorem field_reads_back (field : List Char) :
    (∀ bytes, Written bytes (utf8 field) → fieldBytes field = bytes) ∧
      (∃! ps, Cut (utf8 field) ps) ∧
      (∀ ps, Cut (utf8 field) ps → fieldBytes field = ps.map Piece.value) ∧
      unescape? (utf8 field) = some (fieldBytes field) := by
  refine ⟨fun bytes => unescape_of_written, ?_, fun ps => unescape_of_cut, unescape?_eq _⟩
  obtain ⟨ps, cut⟩ := exists_cut (utf8 field)
  exact ⟨ps, cut, fun qs => cut_unique cut⟩

/-- A backslash and three digits after it, which are not read as an escape. -/
theorem escaped_backslash_reads_back :
    Written [0x5C, 0x30, 0x34, 0x30, 0xFF, 0x2F]
        (utf8 ['\\', '1', '3', '4', '0', '4', '0', '\\', '3', '7', '7', '/']) ∧
      fieldBytes ['\\', '1', '3', '4', '0', '4', '0', '\\', '3', '7', '7', '/'] =
        [0x5C, 0x30, 0x34, 0x30, 0xFF, 0x2F] := by
  have last : Written [0xFF, 0x2F] [0x5C, 0x33, 0x37, 0x37, 0x2F] :=
    .escape 0xFF (.kept (by decide) .nil)
  have digits : Written [0x30, 0x34, 0x30, 0xFF, 0x2F]
      [0x30, 0x34, 0x30, 0x5C, 0x33, 0x37, 0x37, 0x2F] :=
    .kept (by decide) (.kept (by decide) (.kept (by decide) last))
  have written : Written [0x5C, 0x30, 0x34, 0x30, 0xFF, 0x2F]
      (utf8 ['\\', '1', '3', '4', '0', '4', '0', '\\', '3', '7', '7', '/']) :=
    .escape 0x5C digits
  exact ⟨written, (field_reads_back _).1 _ written⟩

end MountProbe.Mount.Table
