import MountProbe.Json.Reader
import MountProbe.Proofs.Json.Unique
import MountProbe.Proofs.Text.Reading

namespace MountProbe.Json

def glyphOf (c : Char) : Glyph :=
  if c.toNat < 0x20 ∧ c ∉ ['\x08', '\x0c', '\n', '\r', '\t'] then .code c.toNat else .plain c

def glyphs (s : String) : List Glyph :=
  s.toList.map glyphOf

mutual

/-- What a value is as it is written. -/
def written : Json → Written
  | null => .null
  | bool b => .bool b
  | whole n => .number (Nat.toDigits 10 n)
  | real x => if x.jsonNumeral = "null" then .null else .number x.jsonNumeral.toList
  | text s => .text (glyphs s)
  | list items => .list (writtenItems items)
  | object fields => .object (writtenFields fields)

def writtenItems : List Json → List Written
  | [] => []
  | v :: rest => written v :: writtenItems rest

def writtenFields : List (String × Json) → List (List Glyph × Written)
  | [] => []
  | (k, v) :: rest => (glyphs k, written v) :: writtenFields rest

end

/-- What stands between the marks of a list or an object. -/
def joined (close : Char) : List (List Char) → List Char
  | [] => [close]
  | [part] => part ++ [close]
  | part :: next :: rest => part ++ ',' :: joined close (next :: rest)

def EndsNumeral (cs : List Char) : Prop :=
  ∀ c ∈ cs.head?, c.isDigit = false ∧ c ≠ '.' ∧ c ≠ 'e' ∧ c ≠ 'E'

section

variable {c : Char} {x cs : List Char} {gs : List Glyph} {n : Nat} {v : Json}

theorem readGlyphs_plain (no_quote : c ≠ '"') (no_slash : c ≠ '\\') (visible : 0x20 ≤ c.toNat) :
    readGlyphs (c :: x) = Reader.next (.plain c) (readGlyphs x) := by
  rw [readGlyphs]
  · rw [if_neg (by omega)]
  all_goals simp_all

theorem hexNumber?_of_control (control : c.toNat < 0x20) :
    hexNumber? ['0', '0', hexDigit (c.toNat / 16), hexDigit (c.toNat % 16)] = some c.toNat := by
  obtain ⟨digits, number⟩ := escaped_number control
  rw [hexNumber?, if_pos digits, number]

theorem readGlyphs_escapeChar (c : Char) (x : List Char) :
    readGlyphs (escapeChar c ++ x) = Reader.next (glyphOf c) (readGlyphs x) := by
  unfold escapeChar
  repeat' split
  all_goals first
    | (subst c; rfl)
    | skip
  · rename_i control
    simp only [List.cons_append, List.nil_append]
    rw [readGlyphs, hexNumber?_of_control control, glyphOf, if_pos ⟨control, by simp_all⟩]
  · rename_i no_quote no_slash _ _ _ _ _ visible
    rw [List.singleton_append, readGlyphs_plain no_quote no_slash (by omega), glyphOf,
      if_neg fun both => visible both.1]

theorem spelled?_glyphOf (c : Char) (gs : List Glyph) :
    spelled? (glyphOf c :: gs) = (spelled? gs).map (c :: ·) := by
  unfold glyphOf
  split
  · rename_i control
    have no_high : isHigh c.toNat = false := by simp [isHigh]; omega
    have no_low : isLow c.toNat = false := by simp [isLow]; omega
    conv_lhs => unfold spelled?
    simp only [no_high, no_low, Char.ofNat_toNat, Bool.false_eq_true, if_false]
  · rw [spelled?]

theorem readGlyphs_flatMap (cs x : List Char) :
    readGlyphs (cs.flatMap escapeChar ++ '"' :: x) = some (cs.map glyphOf, x) := by
  induction cs with
  | nil => rfl
  | cons c cs ih =>
    rw [List.flatMap_cons, List.append_assoc, readGlyphs_escapeChar, ih]
    rfl

theorem spelled?_map (cs : List Char) : spelled? (cs.map glyphOf) = some cs := by
  induction cs with
  | nil => rfl
  | cons c cs ih => rw [List.map_cons, spelled?_glyphOf, ih, Option.map_some]

theorem spelled?_glyphs (s : String) : (spelled? (glyphs s)).map String.ofList = some s := by
  rw [glyphs, spelled?_map, Option.map_some, String.ofList_toList]

theorem splitDigits_append {ds : List Char} (all : ∀ c ∈ ds, c.isDigit = true)
    (ends : EndsNumeral x) : splitDigits (ds ++ x) = (ds, x) := by
  rw [splitDigits, List.takeWhile_append_of_pos all, List.dropWhile_append_of_pos all]
  cases x with
  | nil => simp
  | cons c x =>
    have stops := (ends c rfl).1
    rw [List.takeWhile_cons_of_neg (by simp [stops]), List.dropWhile_cons_of_neg (by simp [stops]),
      List.append_nil]

theorem toDigits_of_pos (pos : 0 < n) :
    ∃ d rest, Nat.toDigits 10 n = Nat.digitChar d :: rest ∧ 0 < d ∧ d < 10 := by
  induction n using Nat.strongRecOn with
  | ind n ih =>
    rw [Nat.toDigits_eq_if (by omega)]
    split
    · rename_i small
      exact ⟨n, [], rfl, pos, small⟩
    · obtain ⟨d, rest, front, range⟩ := ih (n / 10) (by omega) (by omega)
      exact ⟨d, rest ++ [Nat.digitChar (n % 10)], by rw [front]; rfl, range⟩

theorem digitChar_ne_zero : ∀ d < 10, 0 < d → Nat.digitChar d ≠ '0' := by
  decide

theorem toDigits_zero {rest : List Char} (zero : Nat.toDigits 10 n = '0' :: rest) : rest = [] := by
  cases n with
  | zero =>
    cases zero
    rfl
  | succ n =>
    obtain ⟨d, others, digits, pos, small⟩ := toDigits_of_pos (Nat.succ_pos n)
    rw [digits] at zero
    exact absurd (List.cons.inj zero).1 (digitChar_ne_zero d small pos)

theorem readPlaces_of_ends (ends : EndsNumeral x) : readPlaces x = some ([], x) := by
  cases x with
  | nil => rfl
  | cons c x =>
    rw [readPlaces]
    rintro rest same
    exact (ends c rfl).2.1 (List.cons.inj same).1

theorem readPower_of_ends (ends : EndsNumeral x) : readPower x = some ([], x) := by
  cases x with
  | nil => rfl
  | cons c x =>
    obtain ⟨-, -, small, large⟩ := ends c rfl
    rw [readPower, if_neg (by simp [small, large])]

theorem splitWhole_toDigits (n : Nat) (ends : EndsNumeral x) :
    splitWhole (Nat.toDigits 10 n ++ x) = (Nat.toDigits 10 n, x) := by
  have all : ∀ c ∈ Nat.toDigits 10 n, c.isDigit = true := fun c member =>
    Nat.isDigit_of_mem_toDigits (by decide) (by decide) member
  unfold splitWhole
  split
  · rename_i rest zero
    cases digits : Nat.toDigits 10 n with
    | nil => exact absurd digits Nat.toDigits_ne_nil
    | cons c ds =>
      rw [digits] at zero
      obtain ⟨rfl, same⟩ := List.cons.inj zero
      cases toDigits_zero digits
      rw [← same]
      rfl
  · exact splitDigits_append all ends

theorem readNumeral_toDigits (n : Nat) (ends : EndsNumeral x) :
    readNumeral (Nat.toDigits 10 n ++ x) = some (Nat.toDigits 10 n, x) := by
  obtain ⟨c, ds, digits, digit⟩ := toDigits_first n
  have unsigned : splitSign ['-'] (Nat.toDigits 10 n ++ x) = ([], Nat.toDigits 10 n ++ x) := by
    rw [digits, List.cons_append, splitSign, if_neg]
    rintro (_ | ⟨_, ⟨⟩⟩)
    cases digit
  have some_digits : (Nat.toDigits 10 n).isEmpty = false := by rw [digits]; rfl
  simp only [readNumeral, unsigned, splitWhole_toDigits n ends, some_digits,
    readPlaces_of_ends ends, readPower_of_ends ends, bind, Option.bind, Bool.false_eq_true,
    if_false, List.nil_append, List.append_nil]
  rfl

theorem readWord_toDigits (n : Nat) (ends : EndsNumeral x) :
    readWord (Nat.toDigits 10 n ++ x) = some (.number (Nat.toDigits 10 n), x) := by
  obtain ⟨c, ds, digits, digit⟩ := toDigits_first n
  have read := readNumeral_toDigits n ends
  rw [digits, List.cons_append] at read ⊢
  rw [readWord, read, Option.map_some]
  all_goals
    rintro rest same
    rw [(List.cons.inj same).1] at digit
    cases digit

theorem skipSpaces_cons (solid : isSpace c = false) (x : List Char) :
    skipSpaces (c :: x) = c :: x := by
  rw [skipSpaces, List.dropWhile_cons_of_neg (by simp [solid])]

/-- The part is read as what it stands for, whatever follows it. -/
structure Reads {α : Type} (item : Reader α) (close : Char) (part : List Char) (a : α) :
    Prop where
  first : ∃ c rest, part = c :: rest ∧ isSpace c = false ∧ c ≠ close
  reads : ∀ x, EndsNumeral x → item (part ++ x) = some (a, x)

theorem endsNumeral_mark {mark : Char} (own : mark ∈ [',', ']', '\x7d']) (x : List Char) :
    EndsNumeral (mark :: x) := by
  rintro d ⟨⟩
  simp only [List.mem_cons, List.not_mem_nil, or_false] at own
  rcases own with rfl | rfl | rfl <;> decide

theorem solid_of_mark {mark : Char} (own : mark ∈ [']', '\x7d']) :
    isSpace mark = false ∧ ',' ≠ mark := by
  simp only [List.mem_cons, List.not_mem_nil, or_false] at own
  rcases own with rfl | rfl <;> decide

section

variable {α : Type} {item : Reader α} {close : Char}

theorem Reads.skipSpaces {part : List Char} {a : α} (reads : Reads item close part a)
    (x : List Char) : skipSpaces (part ++ x) = part ++ x := by
  obtain ⟨c, rest, rfl, solid, -⟩ := reads.first
  exact skipSpaces_cons solid _

theorem readItems_joined (parts : List (List Char × α)) (own : close ∈ [']', '\x7d']) (some_part : parts ≠ [])
    (each : ∀ p ∈ parts, Reads item close p.1 p.2) (x : List Char) :
    readItems item close (joined close (parts.map Prod.fst) ++ x) =
      some (parts.map Prod.snd, x) := by
  obtain ⟨close_solid, close_comma⟩ := solid_of_mark own
  induction parts with
  | nil => exact absurd rfl some_part
  | cons p parts ih =>
    obtain ⟨reads, others⟩ := List.forall_mem_cons.mp each
    cases parts with
    | nil =>
      have read := reads.reads (close :: x) (endsNumeral_mark (List.mem_cons_of_mem _ own) x)
      simp only [List.map_cons, List.map_nil, joined, List.append_assoc, List.singleton_append]
      rw [readItems, reads.skipSpaces, read]
      simp only [skipSpaces_cons close_solid, if_true]
    | cons q parts =>
      have later := ih (List.cons_ne_nil q parts) others
      have read := reads.reads (',' :: (joined close ((q :: parts).map Prod.fst) ++ x))
        (endsNumeral_mark List.mem_cons_self _)
      obtain ⟨c, rest, front, -⟩ := reads.first
      have shorter : (joined close ((q :: parts).map Prod.fst) ++ x).length <
          (p.1 ++ ',' :: (joined close ((q :: parts).map Prod.fst) ++ x)).length := by
        simp only [List.length_append, List.length_cons]
        omega
      rw [show joined close ((p :: q :: parts).map Prod.fst) =
        p.1 ++ ',' :: joined close ((q :: parts).map Prod.fst) from rfl, List.append_assoc,
        List.cons_append, readItems, reads.skipSpaces, read]
      dsimp only
      rw [skipSpaces_cons (c := ',') rfl]
      dsimp only
      rw [if_neg close_comma, if_pos ⟨rfl, shorter⟩, later]
      rfl

theorem readMany_joined (parts : List (List Char × α)) (own : close ∈ [']', '\x7d'])
    (each : ∀ p ∈ parts, Reads item close p.1 p.2) (x : List Char) :
    readMany item close (joined close (parts.map Prod.fst) ++ x) =
      some (parts.map Prod.snd, x) := by
  cases parts with
  | nil =>
    simp only [List.map_nil, joined, List.singleton_append, readMany,
      skipSpaces_cons (solid_of_mark own).1, if_true]
  | cons p parts =>
    obtain ⟨c, rest, front, solid, other⟩ := (each p List.mem_cons_self).first
    have read := readItems_joined (p :: parts) own (List.cons_ne_nil p parts) each x
    obtain ⟨tail, begins⟩ : ∃ tail, joined close ((p :: parts).map Prod.fst) ++ x = c :: tail := by
      cases parts <;> simp [joined, front]
    rw [begins] at read ⊢
    rw [readMany, skipSpaces_cons solid]
    simp only [if_neg other]
    exact read

end

theorem length_lt_joined (close : Char) {parts : List (List Char)} {part : List Char}
    (member : part ∈ parts) : part.length < (joined close parts).length := by
  induction parts with
  | nil => cases member
  | cons p parts ih =>
    cases parts with
    | nil =>
      rw [List.mem_singleton.mp member]
      simp [joined]
    | cons q parts =>
      rw [joined, List.length_append, List.length_cons]
      rcases List.mem_cons.mp member with rfl | later
      · omega
      · have shorter := ih later
        omega

def renderField (f : String × Json) : List Char :=
  renderText f.1.toList ++ ':' :: render f.2

theorem renderItems_eq (items : List Json) : renderItems items = joined ']' (items.map render) := by
  induction items with
  | nil => rfl
  | cons v items ih =>
    cases items with
    | nil => rfl
    | cons w items => rw [renderItems, ih]; rfl

theorem renderFields_eq (fields : List (String × Json)) :
    renderFields fields = joined '\x7d' (fields.map renderField) := by
  induction fields with
  | nil => rfl
  | cons f fields ih =>
    cases fields with
    | nil => rfl
    | cons g fields =>
      rw [renderFields, ih]
      simp [renderField, joined]

theorem writtenItems_eq (items : List Json) : writtenItems items = items.map written := by
  induction items with
  | nil => rfl
  | cons v items ih => rw [writtenItems, ih, List.map_cons]

theorem writtenFields_eq (fields : List (String × Json)) :
    writtenFields fields = fields.map fun f => (glyphs f.1, written f.2) := by
  induction fields with
  | nil => rfl
  | cons f fields ih => rw [writtenFields, ih, List.map_cons]

theorem solid_of_kindOf? {k : Kind} (kind : kindOf? c = some k) :
    isSpace c = false ∧ c ∉ [']', '\x7d'] := by
  constructor
  · cases space : isSpace c with
    | false => rfl
    | true =>
      simp only [isSpace, Bool.or_eq_true, beq_iff_eq] at space
      rcases space with ((rfl | rfl) | rfl) | rfl <;> cases kind
  · intro closes
    simp only [List.mem_cons, List.not_mem_nil, or_false] at closes
    rcases closes with rfl | rfl <;> cases kind

theorem readText_render (s : List Char) (x : List Char) :
    readGlyphs (s.flatMap escapeChar ++ ['"'] ++ x) = some (s.map glyphOf, x) := by
  rw [List.append_assoc, List.singleton_append, readGlyphs_flatMap]

theorem reads_field {item : Reader Written} {f : String × Json} {w : Written}
    (reads : Reads item '\x7d' (render f.2) w) :
    Reads (readField item) '\x7d' (renderField f) (glyphs f.1, w) where
  first := ⟨'"', _, rfl, rfl, by decide⟩
  reads x ends := by
    have colon : ∀ y, skipSpaces (':' :: y) = ':' :: y := fun y => skipSpaces_cons rfl y
    simp only [renderField, renderText, List.cons_append, List.append_assoc, List.nil_append]
    rw [readField, readGlyphs_flatMap]
    simp only [colon, reads.skipSpaces, reads.reads x ends]
    rfl

mutual

/-- A value without real numbers is read back as it was written. -/
theorem readValue_render (v : Json) (plain : v.isPlain = true) {depth : Nat}
    (deep : (render v).length ≤ depth) (x : List Char) (ends : EndsNumeral x) :
    readValue depth (render v ++ x) = some (written v, x) := by
  cases depth with
  | zero =>
    obtain ⟨c, rest, front, -⟩ := render_first plain
    rw [front] at deep
    cases deep
  | succ depth =>
    match v with
    | null => rfl
    | bool true => rfl
    | bool false => rfl
    | whole n =>
      obtain ⟨c, ds, digits, digit⟩ := toDigits_first n
      have read := readWord_toDigits n ends
      rw [render, written]
      rw [digits, List.cons_append] at read ⊢
      rw [readValue, read]
      all_goals
        rintro rest same
        rw [(List.cons.inj same).1] at digit
        cases digit
    | real _ => cases plain
    | text s =>
      rw [render, renderText, List.cons_append, List.cons_append, readValue, readText_render]
      rfl
    | list items =>
      rw [render, renderItems_eq, List.length_cons] at deep
      have shorter : ∀ v ∈ items, (render v).length ≤ depth := fun v member => by
        have inside := length_lt_joined ']' (List.mem_map_of_mem (f := render) member)
        omega
      have read := readMany_joined (items.map fun v => (render v, written v))
        (show ']' ∈ [']', '\x7d'] by decide) (List.forall_mem_map.mpr (reads_items items plain shorter)) x
      simp only [List.map_map, Function.comp_def] at read
      rw [render, renderItems_eq, List.cons_append, readValue, read, written, writtenItems_eq]
      rfl
    | object fields =>
      rw [render, renderFields_eq, List.length_cons] at deep
      have shorter : ∀ f ∈ fields, (renderField f).length ≤ depth := fun f member => by
        have inside := length_lt_joined '\x7d' (List.mem_map_of_mem (f := renderField) member)
        omega
      have read := readMany_joined
        (fields.map fun f => (renderField f, glyphs f.1, written f.2))
        (show '\x7d' ∈ [']', '\x7d'] by decide) (List.forall_mem_map.mpr (reads_fields fields plain shorter)) x
      simp only [List.map_map, Function.comp_def] at read
      rw [render, renderFields_eq, List.cons_append, readValue, read, written, writtenFields_eq]
      rfl

theorem reads_items (items : List Json) (plain : arePlain items = true) {depth : Nat}
    (deep : ∀ v ∈ items, (render v).length ≤ depth) :
    ∀ v ∈ items, Reads (readValue depth) ']' (render v) (written v) := by
  match items with
  | [] => simp
  | v :: items =>
    obtain ⟨plain, others⟩ := Bool.and_eq_true_iff.mp plain
    obtain ⟨c, rest, front, kind⟩ := render_first plain
    obtain ⟨solid, other⟩ := solid_of_kindOf? kind
    exact List.forall_mem_cons.mpr
      ⟨⟨⟨c, rest, front, solid, fun same => other (by simp [same])⟩,
          readValue_render v plain (deep v List.mem_cons_self)⟩,
        reads_items items others fun w member => deep w (List.mem_cons_of_mem v member)⟩

theorem reads_fields (fields : List (String × Json)) (plain : haveOnlyPlain fields = true)
    {depth : Nat} (deep : ∀ f ∈ fields, (renderField f).length ≤ depth) :
    ∀ f ∈ fields,
      Reads (readField (readValue depth)) '\x7d' (renderField f) (glyphs f.1, written f.2) := by
  match fields with
  | [] => simp
  | (k, v) :: fields =>
    obtain ⟨plain, others⟩ := Bool.and_eq_true_iff.mp plain
    obtain ⟨c, rest, front, kind⟩ := render_first plain
    obtain ⟨solid, other⟩ := solid_of_kindOf? kind
    have shorter : (render v).length ≤ depth := by
      have field := deep (k, v) List.mem_cons_self
      simp only [renderField, List.length_append, List.length_cons] at field
      omega
    exact List.forall_mem_cons.mpr
      ⟨reads_field ⟨⟨c, rest, front, solid, fun same => other (by simp [same])⟩,
          readValue_render v plain shorter⟩,
        reads_fields fields others fun f member => deep f (List.mem_cons_of_mem (k, v) member)⟩

end

theorem endsNumeral_of_spaces (spaces : ∀ c ∈ x, isSpace c = true) : EndsNumeral x := by
  intro c first
  have space := spaces c (List.mem_of_mem_head? first)
  simp only [isSpace, Bool.or_eq_true, beq_iff_eq] at space
  rcases space with ((rfl | rfl) | rfl) | rfl <;> decide

theorem read?_render (plain : v.isPlain = true) (spaces : ∀ c ∈ x, isSpace c = true) :
    read? (render v ++ x) = some (written v) := by
  obtain ⟨c, rest, front, kind⟩ := render_first plain
  have first : skipSpaces (render v ++ x) = render v ++ x := by
    rw [front]
    exact skipSpaces_cons (solid_of_kindOf? kind).1 _
  have last : skipSpaces x = [] := by
    rw [skipSpaces, List.dropWhile_eq_nil_iff]
    exact spaces
  have inside : (render v).length ≤ (render v ++ x).length := by
    rw [List.length_append]
    omega
  rw [read?, first, readValue_render v plain inside x (endsNumeral_of_spaces spaces)]
  simp only [bind, Option.bind, last]
  rfl

end

end MountProbe.Json
