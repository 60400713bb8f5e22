import MountProbe.Text.Utf8

namespace MountProbe.Text

theorem isTail_iff {b : UInt8} : isTail b = true ↔ 0x80 ≤ b.toNat ∧ b.toNat ≤ 0xBF := by
  simp [isTail, UInt8.le_iff_toNat_le]

theorem readTail_of_isTail {b : UInt8} (tail : isTail b = true) (n acc : Nat) (rest : Bytes) :
    readTail (n + 1) acc (b :: rest) =
      ((readTail n (acc * 64 + (b.toNat - 0x80)) rest).1,
        (readTail n (acc * 64 + (b.toNat - 0x80)) rest).2 + 1) := by
  simp [readTail, tail]

theorem followers_eq (b : UInt8) : followers b =
    if 0xC2 ≤ b.toNat ∧ b.toNat ≤ 0xDF then some (0x80, 0xBF, 0)
    else if b.toNat = 0xE0 then some (0xA0, 0xBF, 1)
    else if b.toNat = 0xED then some (0x80, 0x9F, 1)
    else if 0xE1 ≤ b.toNat ∧ b.toNat ≤ 0xEF then some (0x80, 0xBF, 1)
    else if b.toNat = 0xF0 then some (0x90, 0xBF, 2)
    else if 0xF1 ≤ b.toNat ∧ b.toNat ≤ 0xF3 then some (0x80, 0xBF, 2)
    else if b.toNat = 0xF4 then some (0x80, 0x8F, 2)
    else none := by
  simp only [followers, Bool.and_eq_true, decide_eq_true_eq, beq_iff_eq, UInt8.le_iff_toNat_le,
    ← UInt8.toNat_inj]
  rfl

theorem leadBits_eq (b : UInt8) : leadBits b =
    if b.toNat < 0xE0 then b.toNat - 0xC0 else if b.toNat < 0xF0 then b.toNat - 0xE0
    else b.toNat - 0xF0 := by
  simp only [leadBits, UInt8.lt_iff_toNat_lt]
  rfl

/-- The bytes of one character, in numbers; the shortest form only, and no surrogates. -/
inductive Spells : Bytes → Nat → Prop where
  | one {a : UInt8} : a.toNat < 0x80 → Spells [a] a.toNat
  | two {a b : UInt8} {n : Nat} : 0xC2 ≤ a.toNat → a.toNat ≤ 0xDF → isTail b = true →
    n = (a.toNat - 0xC0) * 64 + (b.toNat - 0x80) → Spells [a, b] n
  | three {a b c : UInt8} {n : Nat} : 0xE0 ≤ a.toNat → a.toNat ≤ 0xEF → isTail b = true →
    isTail c = true → n = ((a.toNat - 0xE0) * 64 + (b.toNat - 0x80)) * 64 + (c.toNat - 0x80) →
    0x800 ≤ n → n < 0xD800 ∨ 0xE000 ≤ n → Spells [a, b, c] n
  | four {a b c d : UInt8} {n : Nat} : 0xF0 ≤ a.toNat → a.toNat ≤ 0xF4 → isTail b = true →
    isTail c = true → isTail d = true →
    n = (((a.toNat - 0xF0) * 64 + (b.toNat - 0x80)) * 64 + (c.toNat - 0x80)) * 64 +
      (d.toNat - 0x80) →
    0x10000 ≤ n → n ≤ 0x10FFFF → Spells [a, b, c, d] n

theorem isTail_ofNat (n : Nat) : isTail (UInt8.ofNat (n % 64 + 128)) = true := by
  rw [isTail_iff, UInt8.toNat_ofNat']
  omega

theorem spells_encoded (c : Char) : Spells (String.utf8EncodeChar c) c.toNat := by
  have valid : c.toNat < 0xD800 ∨ 0xDFFF < c.toNat ∧ c.toNat < 0x110000 := c.valid
  have value : c.val.toNat = c.toNat := rfl
  unfold String.utf8EncodeChar
  simp only [value]
  generalize c.toNat = n at valid
  split
  · have number : (UInt8.ofNat n).toNat = n := by
      rw [UInt8.toNat_ofNat']
      omega
    have one := Spells.one (a := UInt8.ofNat n) (by omega)
    rwa [number] at one
  · split
    · refine .two ?_ ?_ (isTail_ofNat n) ?_ <;> simp only [UInt8.toNat_ofNat'] <;> omega
    · split
      · refine .three ?_ ?_ (isTail_ofNat _) (isTail_ofNat n) ?_ (by omega) (by omega) <;>
          simp only [UInt8.toNat_ofNat'] <;> omega
      · refine .four ?_ ?_ (isTail_ofNat _) (isTail_ofNat _) (isTail_ofNat n) ?_ (by omega)
          (by omega) <;> simp only [UInt8.toNat_ofNat'] <;> omega

theorem Spells.toNat_ofNat {bs : Bytes} {n : Nat} (spells : Spells bs n) :
    (Char.ofNat n).toNat = n := by
  have valid : n.isValidChar := by
    unfold Nat.isValidChar
    cases spells with
    | one small => omega
    | two low high b_tail number =>
      have b_range := isTail_iff.mp b_tail
      omega
    | three low high b_tail c_tail number least apart =>
      have b_range := isTail_iff.mp b_tail
      have c_range := isTail_iff.mp c_tail
      omega
    | four low high b_tail c_tail d_tail number least most => omega
  rw [Char.ofNat, dif_pos valid]
  rfl

theorem Spells.encoded {bs : Bytes} {n : Nat} (spells : Spells bs n) :
    String.utf8EncodeChar (Char.ofNat n) = bs := by
  have value : (Char.ofNat n).val.toNat = n := spells.toNat_ofNat
  unfold String.utf8EncodeChar
  simp only [value]
  cases spells with
  | one small =>
    rw [if_pos (by omega)]
    simp only [List.cons.injEq, and_true, ← UInt8.toNat_inj, UInt8.toNat_ofNat']
    omega
  | two low high b_tail number =>
    rw [isTail_iff] at b_tail
    rw [if_neg (by omega), if_pos (by omega)]
    simp only [List.cons.injEq, and_true, ← UInt8.toNat_inj, UInt8.toNat_ofNat']
    omega
  | three low high b_tail c_tail number least apart =>
    rw [isTail_iff] at b_tail c_tail
    rw [if_neg (by omega), if_neg (by omega), if_pos (by omega)]
    simp only [List.cons.injEq, and_true, ← UInt8.toNat_inj, UInt8.toNat_ofNat']
    omega
  | four low high b_tail c_tail d_tail number least most =>
    rw [isTail_iff] at b_tail c_tail d_tail
    rw [if_neg (by omega), if_neg (by omega), if_neg (by omega)]
    simp only [List.cons.injEq, and_true, ← UInt8.toNat_inj, UInt8.toNat_ofNat']
    omega

def Begins (b second : UInt8) (more : Nat) : Prop :=
  ∃ lo hi, followers b = some (lo, hi, more) ∧ lo.toNat ≤ second.toNat ∧ second.toNat ≤ hi.toNat

theorem begins_two {b second : UInt8} (low : 0xC2 ≤ b.toNat) (high : b.toNat ≤ 0xDF)
    (tail : isTail second = true) : Begins b second 0 :=
  ⟨0x80, 0xBF, by rw [followers_eq, if_pos ⟨low, high⟩], isTail_iff.mp tail⟩

theorem begins_three {b second : UInt8} (low : 0xE0 ≤ b.toNat) (high : b.toNat ≤ 0xEF)
    (tail : isTail second = true) (least : b.toNat = 0xE0 → 0xA0 ≤ second.toNat)
    (most : b.toNat = 0xED → second.toNat ≤ 0x9F) : Begins b second 1 := by
  obtain ⟨above, below⟩ := isTail_iff.mp tail
  unfold Begins
  rw [followers_eq, if_neg (by omega)]
  by_cases first : b.toNat = 0xE0
  · rw [if_pos first]
    exact ⟨0xA0, 0xBF, rfl, least first, below⟩
  · rw [if_neg first]
    by_cases surrogate : b.toNat = 0xED
    · rw [if_pos surrogate]
      exact ⟨0x80, 0x9F, rfl, above, most surrogate⟩
    · rw [if_neg surrogate, if_pos (by omega)]
      exact ⟨0x80, 0xBF, rfl, above, below⟩

theorem begins_four {b second : UInt8} (low : 0xF0 ≤ b.toNat) (high : b.toNat ≤ 0xF4)
    (tail : isTail second = true) (least : b.toNat = 0xF0 → 0x90 ≤ second.toNat)
    (most : b.toNat = 0xF4 → second.toNat ≤ 0x8F) : Begins b second 2 := by
  obtain ⟨above, below⟩ := isTail_iff.mp tail
  unfold Begins
  rw [followers_eq, if_neg (by omega), if_neg (by omega), if_neg (by omega), if_neg (by omega)]
  by_cases first : b.toNat = 0xF0
  · rw [if_pos first]
    exact ⟨0x90, 0xBF, rfl, least first, below⟩
  · rw [if_neg first]
    by_cases last : b.toNat = 0xF4
    · rw [if_neg (by omega), if_pos last]
      exact ⟨0x80, 0x8F, rfl, above, most last⟩
    · rw [if_pos (by omega)]
      exact ⟨0x80, 0xBF, rfl, above, below⟩

theorem readChar_of_begins {b second : UInt8} {more : Nat} (begins : Begins b second more)
    (rest : Bytes) :
    readChar b (second :: rest) =
      ((readTail more (leadBits b * 64 + (second.toNat - 0x80)) rest).1.map Char.ofNat,
        (readTail more (leadBits b * 64 + (second.toNat - 0x80)) rest).2 + 1) := by
  obtain ⟨lo, hi, leads, above, below⟩ := begins
  have large : ¬ b < 0x80 := by
    intro small
    rw [UInt8.lt_iff_toNat_lt] at small
    have few : b.toNat < 128 := small
    rw [followers_eq] at leads
    simp [show ¬ (0xC2 ≤ b.toNat ∧ b.toNat ≤ 0xDF) by omega, show b.toNat ≠ 0xE0 by omega,
      show b.toNat ≠ 0xED by omega, show ¬ (0xE1 ≤ b.toNat ∧ b.toNat ≤ 0xEF) by omega,
      show b.toNat ≠ 0xF0 by omega, show ¬ (0xF1 ≤ b.toNat ∧ b.toNat ≤ 0xF3) by omega,
      show b.toNat ≠ 0xF4 by omega] at leads
  have within : (lo ≤ second && second ≤ hi) = true := by
    simp [UInt8.le_iff_toNat_le, above, below]
  unfold readChar
  rw [if_neg large]
  simp only [leads, within, if_true]

theorem readChar_of_spells {b : UInt8} {tail : Bytes} {n : Nat} (spells : Spells (b :: tail) n)
    (rest : Bytes) : readChar b (tail ++ rest) = (some (Char.ofNat n), tail.length) := by
  cases spells with
  | one small => simp [readChar, UInt8.lt_iff_toNat_lt, small]
  | two low high b_tail number =>
    rw [List.singleton_append, readChar_of_begins (begins_two low high b_tail), leadBits_eq,
      if_pos (by omega), ← number]
    rfl
  | three low high b_tail c_tail number least apart =>
    have b_range := isTail_iff.mp b_tail
    have c_range := isTail_iff.mp c_tail
    rw [List.cons_append, readChar_of_begins (begins_three low high b_tail (by omega) (by omega)),
      leadBits_eq, if_neg (by omega), if_pos (by omega), List.singleton_append,
      readTail_of_isTail c_tail, ← number]
    rfl
  | four low high b_tail c_tail d_tail number least most =>
    have b_range := isTail_iff.mp b_tail
    have c_range := isTail_iff.mp c_tail
    have d_range := isTail_iff.mp d_tail
    rw [List.cons_append, readChar_of_begins (begins_four low high b_tail (by omega) (by omega)),
      leadBits_eq, if_neg (by omega), if_neg (by omega), List.cons_append, List.singleton_append,
      readTail_of_isTail c_tail, readTail_of_isTail d_tail, ← number]
    rfl

/-- What a first and a second byte can be. -/
inductive Beginning (b second : UInt8) : Nat → Prop where
  | two : 0xC2 ≤ b.toNat → b.toNat ≤ 0xDF → Beginning b second 0
  | three : 0xE0 ≤ b.toNat → b.toNat ≤ 0xEF → (b.toNat = 0xE0 → 0xA0 ≤ second.toNat) →
    (b.toNat = 0xED → second.toNat ≤ 0x9F) → Beginning b second 1
  | four : 0xF0 ≤ b.toNat → b.toNat ≤ 0xF4 → (b.toNat = 0xF0 → 0x90 ≤ second.toNat) →
    (b.toNat = 0xF4 → second.toNat ≤ 0x8F) → Beginning b second 2

theorem Begins.beginning {b second : UInt8} {more : Nat} (begins : Begins b second more) :
    Beginning b second more ∧ isTail second = true := by
  obtain ⟨lo, hi, leads, above, below⟩ := begins
  rw [followers_eq] at leads
  rw [isTail_iff]
  repeat' split at leads
  all_goals cases leads
  all_goals
    simp only [UInt8.reduceToNat] at above below
    refine ⟨?_, by omega⟩
    constructor <;> omega

theorem readTail_eq_some {n acc v used : Nat} {bs : Bytes}
    (read : readTail (n + 1) acc bs = (some v, used)) :
    ∃ b rest k, bs = b :: rest ∧ isTail b = true ∧ used = k + 1 ∧
      readTail n (acc * 64 + (b.toNat - 0x80)) rest = (some v, k) := by
  cases bs with
  | nil => cases read
  | cons b rest =>
    rw [readTail] at read
    split at read
    · rename_i tail
      simp only [Prod.mk.injEq] at read
      exact ⟨b, rest, _, rfl, tail, read.2.symm, Prod.ext read.1 rfl⟩
    · cases read

theorem Spells.ofNat {bs : Bytes} {n : Nat} (spells : Spells bs n) :
    Spells bs (Char.ofNat n).toNat := by
  rw [spells.toNat_ofNat]
  exact spells

theorem spells_of_begins {b second : UInt8} {more n used : Nat} {rest : Bytes}
    (begins : Begins b second more)
    (read : readTail more (leadBits b * 64 + (second.toNat - 0x80)) rest = (some n, used)) :
    ∃ tail after, rest = tail ++ after ∧ used = tail.length ∧ Spells (b :: second :: tail) n := by
  obtain ⟨beginning, tail⟩ := begins.beginning
  have second_range := isTail_iff.mp tail
  rw [leadBits_eq] at read
  cases beginning with
  | two low high =>
    obtain ⟨number, none_used⟩ := Prod.mk.inj read
    rw [if_pos (by omega)] at number
    exact ⟨[], rest, rfl, none_used.symm, .two low high tail (Option.some.inj number).symm⟩
  | three low high least most =>
    obtain ⟨c, after, k, rfl, c_tail, rfl, last⟩ := readTail_eq_some read
    obtain ⟨number, none_used⟩ := Prod.mk.inj last
    have c_range := isTail_iff.mp c_tail
    rw [if_neg (by omega), if_pos (by omega), Option.some.injEq] at number
    refine ⟨[c], after, rfl, by simp [← none_used], ?_⟩
    exact .three low high tail c_tail number.symm (by omega) (by omega)
  | four low high least most =>
    obtain ⟨c, after, k, rfl, c_tail, rfl, later⟩ := readTail_eq_some read
    obtain ⟨d, after, k, rfl, d_tail, rfl, last⟩ := readTail_eq_some later
    obtain ⟨number, none_used⟩ := Prod.mk.inj last
    have c_range := isTail_iff.mp c_tail
    have d_range := isTail_iff.mp d_tail
    rw [if_neg (by omega), if_neg (by omega), Option.some.injEq] at number
    refine ⟨[c, d], after, rfl, by simp [← none_used], ?_⟩
    exact .four low high tail c_tail d_tail number.symm (by omega) (by omega)

theorem spells_of_readChar {b : UInt8} {rest : Bytes} {c : Char} {used : Nat}
    (read : readChar b rest = (some c, used)) :
    ∃ tail after, rest = tail ++ after ∧ used = tail.length ∧ Spells (b :: tail) c.toNat := by
  unfold readChar at read
  split at read
  · rename_i small
    rw [UInt8.lt_iff_toNat_lt] at small
    obtain ⟨char, none_used⟩ := Prod.mk.inj read
    cases Option.some.inj char
    exact ⟨[], rest, rfl, none_used.symm, (Spells.one small).ofNat⟩
  · split at read
    · rename_i lo hi more second rest leads
      split at read
      · rename_i within
        simp only [Bool.and_eq_true, decide_eq_true_eq, UInt8.le_iff_toNat_le] at within
        obtain ⟨char, count⟩ := Prod.mk.inj read
        obtain ⟨n, number, rfl⟩ := Option.map_eq_some_iff.mp char
        obtain ⟨tail, after, rfl, used_tail, spells⟩ :=
          spells_of_begins ⟨lo, hi, leads, within⟩ (Prod.ext number rfl)
        exact ⟨second :: tail, after, rfl, count.symm.trans (congrArg (· + 1) used_tail),
          spells.ofNat⟩
      · cases (Prod.mk.inj read).1
    · cases (Prod.mk.inj read).1

theorem readChar_encoded (c : Char) : ∃ b tail, String.utf8EncodeChar c = b :: tail ∧
    ∀ rest, readChar b (tail ++ rest) = (some c, tail.length) := by
  have spells := spells_encoded c
  cases encoded : String.utf8EncodeChar c with
  | nil =>
    rw [encoded] at spells
    cases spells
  | cons b tail =>
    rw [encoded] at spells
    refine ⟨b, tail, rfl, fun rest => ?_⟩
    rw [readChar_of_spells spells, Char.ofNat_toNat]

@[simp] theorem utf8_nil : utf8 [] = [] := rfl

@[simp] theorem utf8_cons (c : Char) (cs : List Char) :
    utf8 (c :: cs) = String.utf8EncodeChar c ++ utf8 cs := rfl

@[simp] theorem utf8_append (cs ds : List Char) : utf8 (cs ++ ds) = utf8 cs ++ utf8 ds :=
  List.flatMap_append

theorem decode_utf8 (cs : List Char) : decode (utf8 cs) = cs.map some := by
  induction cs with
  | nil => rw [utf8_nil, decode, List.map_nil]
  | cons c cs ih =>
    obtain ⟨b, tail, encoded, reads⟩ := readChar_encoded c
    rw [utf8_cons, encoded, List.cons_append, decode, reads]
    simp [ih]

theorem utf8_of_decode {bs : Bytes} {cs : List Char} (spelled : decode bs = cs.map some) :
    bs = utf8 cs := by
  induction bs using decode.induct generalizing cs with
  | case1 =>
    rw [decode] at spelled
    rw [List.map_eq_nil_iff.mp spelled.symm, utf8_nil]
  | case2 b rest ih =>
    rw [decode] at spelled
    rcases read : readChar b rest with ⟨char, used⟩
    rw [read] at ih spelled
    cases cs with
    | nil => cases spelled
    | cons c cs =>
      obtain ⟨rfl, later⟩ := List.cons.inj spelled
      obtain ⟨tail, after, rfl, rfl, spells⟩ := spells_of_readChar read
      have encoded := spells.encoded
      rw [Char.ofNat_toNat] at encoded
      rw [utf8_cons, encoded, ← ih later, List.drop_left, List.cons_append]

theorem mapM_id_eq_some {α : Type} {xs : List (Option α)} {ys : List α} :
    xs.mapM id = some ys ↔ xs = ys.map some := by
  induction xs generalizing ys with
  | nil => cases ys <;> simp
  | cons x xs ih =>
    cases ys with
    | nil => cases x <;> simp [List.mapM_cons, Option.bind_eq_some_iff]
    | cons y ys =>
      cases x <;> simp [List.mapM_cons, Option.bind_eq_some_iff, ih, and_comm, and_assoc]

theorem decode?_eq_some {bs : Bytes} {cs : List Char} : decode? bs = some cs ↔ bs = utf8 cs := by
  rw [decode?, mapM_id_eq_some]
  constructor
  · exact utf8_of_decode
  · rintro rfl
    exact decode_utf8 cs

theorem decodeLossy_utf8 (cs : List Char) : decodeLossy (utf8 cs) = cs := by
  simp [decodeLossy, decode_utf8, Function.comp_def]

theorem lossy_utf8 (cs : List Char) : Bytes.lossy (utf8 cs) = String.ofList cs := by
  rw [Bytes.lossy, decodeLossy_utf8]

theorem utf8_injective {cs ds : List Char} (same : utf8 cs = utf8 ds) : cs = ds := by
  rw [← decodeLossy_utf8 cs, same, decodeLossy_utf8]

/-- The bytes spell characters throughout. -/
def IsText (bs : Bytes) : Prop :=
  ∃ cs, bs = utf8 cs

theorem utf8_decodeLossy {bs : Bytes} (text : IsText bs) : bs = utf8 (decodeLossy bs) := by
  obtain ⟨cs, rfl⟩ := text
  rw [decodeLossy_utf8]

theorem isSome_decode? {bs : Bytes} : (decode? bs).isSome = true ↔ IsText bs := by
  simp [Option.isSome_iff_exists, decode?_eq_some, IsText]

theorem decode?_eq_none {bs : Bytes} : decode? bs = none ↔ ¬ IsText bs := by
  rw [← isSome_decode?, Bool.not_eq_true, Option.isSome_eq_false_iff, Option.isNone_iff_eq_none]

theorem Spells.ascii {bs : Bytes} {n : Nat} (spells : Spells bs n) {x : UInt8} (member : x ∈ bs)
    (small : x.toNat < 0x80) : bs = [x] := by
  cases spells with
  | one => rw [List.mem_singleton.mp member]
  | two _ _ b_tail | three _ _ b_tail c_tail | four _ _ b_tail c_tail d_tail =>
    simp only [isTail_iff] at *
    simp only [List.mem_cons, List.not_mem_nil, or_false] at member
    rcases member with rfl | rfl | rfl | rfl <;> omega

theorem isText_nil : IsText [] :=
  ⟨[], rfl⟩

theorem IsText.append {as bs : Bytes} (left : IsText as) (right : IsText bs) :
    IsText (as ++ bs) := by
  obtain ⟨cs, rfl⟩ := left
  obtain ⟨ds, rfl⟩ := right
  exact ⟨cs ++ ds, (utf8_append cs ds).symm⟩

theorem utf8EncodeChar_ascii {x : UInt8} (small : x.toNat < 0x80) :
    String.utf8EncodeChar (Char.ofNat x.toNat) = [x] :=
  (Spells.one small).encoded

/-- An ASCII byte is no part of a longer character, so the text can be cut there. -/
theorem isText_append_cons {x : UInt8} (small : x.toNat < 0x80) {as bs : Bytes} :
    IsText (as ++ x :: bs) ↔ IsText as ∧ IsText bs := by
  constructor
  · rintro ⟨cs, spelled⟩
    induction cs generalizing as with
    | nil => simp at spelled
    | cons c cs ih =>
      rw [utf8_cons] at spelled
      -- The byte is in the first character, and then it is all of it, or in the text after it.
      rcases List.append_eq_append_iff.mp spelled with
        ⟨middle, encoded, later⟩ | ⟨middle, rfl, later⟩
      · cases middle with
        | nil =>
          rw [List.append_nil] at encoded
          have cut : [] ++ x :: bs = utf8 cs := later
          exact ⟨⟨[c], by simp [encoded]⟩, (ih cut).2⟩
        | cons y middle =>
          obtain ⟨rfl, rfl⟩ := List.cons.inj later
          have alone := (spells_encoded c).ascii (by rw [encoded]; simp) small
          rw [encoded, List.append_eq_singleton_iff] at alone
          obtain ⟨rfl, last⟩ | ⟨-, none⟩ := alone
          · rw [(List.cons.inj last).2]
            exact ⟨isText_nil, ⟨cs, rfl⟩⟩
          · cases none
      · obtain ⟨left, right⟩ := ih later.symm
        exact ⟨.append ⟨[c], by simp⟩ left, right⟩
  · rintro ⟨left, right⟩
    have middle : IsText [x] := ⟨[Char.ofNat x.toNat], by simp [utf8EncodeChar_ascii small]⟩
    exact left.append (middle.append right)

theorem isText_cons {x : UInt8} (small : x.toNat < 0x80) {bs : Bytes} :
    IsText (x :: bs) ↔ IsText bs :=
  (@isText_append_cons x small [] bs).trans (and_iff_right isText_nil)

theorem eq_of_ascii {c : Char} {x : UInt8} (member : x ∈ String.utf8EncodeChar c)
    (small : x.toNat < 0x80) : c = Char.ofNat x.toNat := by
  have spells := spells_encoded c
  rw [spells.ascii member small] at spells
  have value : c.toNat = x.toNat := by
    generalize c.toNat = n at spells
    cases spells
    rfl
  rw [← value, Char.ofNat_toNat]

end MountProbe.Text
