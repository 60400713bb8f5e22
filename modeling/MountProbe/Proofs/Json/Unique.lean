import Mathlib.Data.List.Basic
import MountProbe.Json
import MountProbe.Toml.Lexeme

namespace MountProbe

def NoDigitFirst (cs : List Char) : Prop :=
  ∀ c ∈ cs.head?, c.isDigit = false

theorem decimal_append_injective {m n : Nat} {x y : List Char} (hx : NoDigitFirst x)
    (hy : NoDigitFirst y) (same : Nat.toDigits 10 m ++ x = Nat.toDigits 10 n ++ y) :
    m = n ∧ x = y := by
  have digits : ∀ (k : Nat) (z : List Char), NoDigitFirst z →
      (Nat.toDigits 10 k ++ z).takeWhile Char.isDigit = Nat.toDigits 10 k := by
    intro k z stops
    have all : ∀ c ∈ Nat.toDigits 10 k, c.isDigit = true := fun c member =>
      Nat.isDigit_of_mem_toDigits (by decide) (by decide) member
    rw [List.takeWhile_append_of_pos all]
    cases z with
    | nil => rw [List.takeWhile_nil, List.append_nil]
    | cons c rest =>
      rw [List.takeWhile_cons_of_neg, List.append_nil]
      rw [stops c rfl]
      exact Bool.false_ne_true
  have numerals : Nat.toDigits 10 m = Nat.toDigits 10 n := by
    rw [← digits m x hx, same, digits n y hy]
  have value := congrArg (fun cs => Nat.ofDigitChars 10 cs 0) numerals
  simp only [Nat.ofDigitChars_toDigits (b := 10) (by decide) (by decide)] at value
  rw [numerals] at same
  exact ⟨value, List.append_cancel_left same⟩

theorem Toml.hexValue_digitChar : ∀ n < 16, hexValue (Nat.digitChar n) = n := by
  decide

theorem Toml.isHexadecimal_digitChar : ∀ n < 16, isHexadecimal (Nat.digitChar n) = true := by
  decide

namespace Json

theorem escaped_number {c : Char} (control : c.toNat < 0x20) :
    ['0', '0', hexDigit (c.toNat / 16), hexDigit (c.toNat % 16)].all Toml.isHexadecimal = true ∧
      ['0', '0', hexDigit (c.toNat / 16), hexDigit (c.toNat % 16)].foldl
        (fun n c => n * 16 + Toml.hexValue c) 0 = c.toNat := by
  have quotient : c.toNat / 16 < 16 := by omega
  have remainder : c.toNat % 16 < 16 := Nat.mod_lt _ (by decide)
  constructor
  · simp only [hexDigit, List.all_cons, List.all_nil, Toml.isHexadecimal_digitChar _ quotient,
      Toml.isHexadecimal_digitChar _ remainder]
    decide
  · have zero : Toml.hexValue '0' = 0 := rfl
    simp only [hexDigit, List.foldl_cons, List.foldl_nil, zero,
      Toml.hexValue_digitChar _ quotient, Toml.hexValue_digitChar _ remainder]
    omega

theorem readCharNumber_of_control {c : Char} (control : c.toNat < 0x20) (rest : List Char) :
    Toml.readCharNumber 4 ('0' :: '0' :: hexDigit (c.toNat / 16) :: hexDigit (c.toNat % 16) ::
      rest) = .ok (c, rest) := by
  obtain ⟨digits, number⟩ := escaped_number control
  unfold Toml.readCharNumber
  simp only [List.take_succ_cons, List.take_zero, List.drop_succ_cons, List.drop_zero, number]
  rw [if_pos ⟨rfl, digits, by omega, by omega⟩, Char.ofNat_toNat]

theorem escapeChar_cases (c : Char) : (escapeChar c = [c] ∧ c ≠ '"' ∧ c ≠ '\\') ∨
    ∃ name, escapeChar c = '\\' :: name ∧
      ∀ rest, Toml.readEscape (name ++ rest) = .ok (c, rest) := by
  unfold escapeChar
  repeat' split
  all_goals first
    | (subst c; exact .inr ⟨_, rfl, fun rest => rfl⟩)
    | skip
  · rename_i control
    exact .inr ⟨_, rfl, fun rest => readCharNumber_of_control control rest⟩
  · rename_i quote backslash _ _ _ _ _ _
    exact .inl ⟨rfl, quote, backslash⟩

theorem escapeChar_append_injective {c d : Char} {x y : List Char}
    (same : escapeChar c ++ x = escapeChar d ++ y) : c = d ∧ x = y := by
  rcases escapeChar_cases c with ⟨plain, -, unslashed⟩ | ⟨name, escaped, reads⟩
  · rcases escapeChar_cases d with ⟨plain', -, -⟩ | ⟨name', escaped', -⟩
    · rw [plain, plain'] at same
      exact List.cons.inj same
    · rw [plain, escaped'] at same
      exact absurd (List.cons.inj same).1 unslashed
  · rcases escapeChar_cases d with ⟨plain', -, unslashed⟩ | ⟨name', escaped', reads'⟩
    · rw [escaped, plain'] at same
      exact absurd (List.cons.inj same).1.symm unslashed
    · rw [escaped, escaped'] at same
      have escapes : name ++ x = name' ++ y := (List.cons.inj same).2
      have read := reads x
      rw [escapes, reads' y] at read
      cases read
      exact ⟨rfl, rfl⟩

theorem escapeChar_append_ne_quote (c : Char) (x y : List Char) :
    escapeChar c ++ x ≠ '"' :: y := by
  intro same
  rcases escapeChar_cases c with ⟨plain, unquoted, -⟩ | ⟨name, escaped, -⟩
  · rw [plain] at same
    exact unquoted (List.cons.inj same).1
  · rw [escaped] at same
    exact absurd (List.cons.inj same).1 (by decide)

theorem renderText_append_injective {s t x y : List Char}
    (same : renderText s ++ x = renderText t ++ y) : s = t ∧ x = y := by
  have inside : s.flatMap escapeChar ++ '"' :: x = t.flatMap escapeChar ++ '"' :: y := by
    simpa [renderText] using same
  clear same
  induction s generalizing t with
  | nil =>
    cases t with
    | nil => exact ⟨rfl, (List.cons.inj inside).2⟩
    | cons d ds =>
      rw [List.flatMap_cons, List.append_assoc] at inside
      exact absurd inside.symm (escapeChar_append_ne_quote d _ _)
  | cons c cs ih =>
    rw [List.flatMap_cons, List.append_assoc] at inside
    cases t with
    | nil => exact absurd inside (escapeChar_append_ne_quote c _ _)
    | cons d ds =>
      rw [List.flatMap_cons, List.append_assoc] at inside
      obtain ⟨rfl, rest⟩ := escapeChar_append_injective inside
      obtain ⟨rfl, after⟩ := ih rest
      exact ⟨rfl, after⟩

inductive Kind where
  | null
  | bool
  | whole
  | real
  | text
  | list
  | object
deriving DecidableEq

def kind : Json → Kind
  | null => .null
  | bool _ => .bool
  | whole _ => .whole
  | real _ => .real
  | text _ => .text
  | list _ => .list
  | object _ => .object

/-- What a value is that begins with a character. -/
def kindOf? (c : Char) : Option Kind :=
  if c = 'n' then some .null
  else if c = 't' ∨ c = 'f' then some .bool
  else if c = '"' then some .text
  else if c = '[' then some .list
  else if c = '\x7b' then some .object
  else if c.isDigit then some .whole
  else none

mutual

/-- No real number stands in the value. -/
def isPlain : Json → Bool
  | real _ => false
  | list items => arePlain items
  | object fields => haveOnlyPlain fields
  | _ => true

def arePlain : List Json → Bool
  | [] => true
  | v :: rest => isPlain v && arePlain rest

def haveOnlyPlain : List (String × Json) → Bool
  | [] => true
  | (_, v) :: rest => isPlain v && haveOnlyPlain rest

end

theorem kindOf?_of_isDigit {c : Char} (digit : c.isDigit = true) : kindOf? c = some .whole := by
  have apart : ∀ d : Char, d.isDigit = false → c ≠ d := by
    rintro d none rfl
    rw [none] at digit
    cases digit
  simp [kindOf?, apart, digit]

theorem toDigits_first (n : Nat) :
    ∃ c ds, Nat.toDigits 10 n = c :: ds ∧ c.isDigit = true := by
  cases digits : Nat.toDigits 10 n with
  | nil => exact absurd digits Nat.toDigits_ne_nil
  | cons c ds =>
    refine ⟨c, ds, rfl, Nat.isDigit_of_mem_toDigits (b := 10) (n := n) (by decide) (by decide) ?_⟩
    rw [digits]
    exact List.mem_cons_self

theorem render_first {v : Json} (plain : v.isPlain = true) :
    ∃ c rest, v.render = c :: rest ∧ kindOf? c = some v.kind := by
  cases v with
  | null => exact ⟨'n', _, rfl, rfl⟩
  | bool b => cases b <;> exact ⟨_, _, rfl, rfl⟩
  | whole n =>
    obtain ⟨c, rest, digits, digit⟩ := toDigits_first n
    exact ⟨c, rest, by rw [render, digits], kindOf?_of_isDigit digit⟩
  | real x => cases plain
  | text s => exact ⟨'"', _, rfl, rfl⟩
  | list items => exact ⟨'[', _, by rw [render], rfl⟩
  | object fields => exact ⟨'\x7b', _, by rw [render], rfl⟩

theorem kind_eq_of_render {v w : Json} {x y : List Char} (pv : v.isPlain = true)
    (pw : w.isPlain = true) (same : v.render ++ x = w.render ++ y) : v.kind = w.kind := by
  obtain ⟨c, cs, here, kind⟩ := render_first pv
  obtain ⟨d, ds, there, kind'⟩ := render_first pw
  rw [here, there] at same
  rw [(List.cons.inj same).1, kind'] at kind
  exact (Option.some.inj kind).symm

theorem render_append_ne {v : Json} {c : Char} {x y : List Char} (plain : v.isPlain = true)
    (none : kindOf? c = none) : v.render ++ x ≠ c :: y := by
  intro same
  obtain ⟨d, ds, here, kind⟩ := render_first plain
  rw [here] at same
  rw [(List.cons.inj same).1, none] at kind
  cases kind

theorem noDigitFirst_cons {c : Char} (stops : c.isDigit = false) (x : List Char) :
    NoDigitFirst (c :: x) := by
  intro d first
  cases first
  exact stops

def afterItem : List Json → List Char
  | [] => [']']
  | v :: rest => ',' :: renderItems (v :: rest)

def afterField : List (String × Json) → List Char
  | [] => ['\x7d']
  | f :: rest => ',' :: renderFields (f :: rest)

theorem renderItems_cons (v : Json) (rest : List Json) :
    renderItems (v :: rest) = v.render ++ afterItem rest := by
  cases rest <;> rw [renderItems, afterItem]

theorem renderFields_cons (k : String) (v : Json) (rest : List (String × Json)) :
    renderFields ((k, v) :: rest) =
      renderText k.toList ++ ':' :: (v.render ++ afterField rest) := by
  cases rest <;> simp [renderFields, afterField]

theorem noDigitFirst_afterItem (vs : List Json) (x : List Char) :
    NoDigitFirst (afterItem vs ++ x) := by
  cases vs <;> exact noDigitFirst_cons rfl _

theorem noDigitFirst_afterField (fs : List (String × Json)) (x : List Char) :
    NoDigitFirst (afterField fs ++ x) := by
  cases fs <;> exact noDigitFirst_cons rfl _

mutual

theorem render_append_injective {v w : Json} {x y : List Char} (pv : v.isPlain = true)
    (pw : w.isPlain = true) (hx : NoDigitFirst x) (hy : NoDigitFirst y)
    (same : v.render ++ x = w.render ++ y) : v = w ∧ x = y := by
  -- What is written begins alike, so only values of one kind are left to compare.
  have alike := kind_eq_of_render pv pw same
  cases v with
  | null =>
    cases w <;> cases alike
    exact ⟨rfl, List.append_cancel_left same⟩
  | bool b =>
    cases w <;> cases alike
    rename_i d
    cases b <;> cases d <;> simp [render] at same ⊢
    · exact same
    · exact same
  | whole m =>
    cases w <;> cases alike
    rename_i n
    obtain ⟨rfl, after⟩ := decimal_append_injective hx hy same
    exact ⟨rfl, after⟩
  | real _ => cases pv
  | text s =>
    cases w <;> cases alike
    rename_i t
    obtain ⟨texts, after⟩ := renderText_append_injective same
    exact ⟨by rw [String.toList_inj.mp texts], after⟩
  | list items =>
    cases w <;> cases alike
    rename_i others
    rw [render, render] at same
    obtain ⟨rfl, after⟩ := renderItems_append_injective (pv : arePlain items = true)
      (pw : arePlain others = true) (List.cons.inj same).2
    exact ⟨rfl, after⟩
  | object fields =>
    cases w <;> cases alike
    rename_i others
    rw [render, render] at same
    obtain ⟨rfl, after⟩ := renderFields_append_injective (pv : haveOnlyPlain fields = true)
      (pw : haveOnlyPlain others = true) (List.cons.inj same).2
    exact ⟨rfl, after⟩

theorem renderItems_append_injective {vs ws : List Json} {x y : List Char}
    (pv : arePlain vs = true) (pw : arePlain ws = true)
    (same : renderItems vs ++ x = renderItems ws ++ y) : vs = ws ∧ x = y := by
  cases vs with
  | nil =>
    cases ws with
    | nil => exact ⟨rfl, (List.cons.inj same).2⟩
    | cons w ws =>
      rw [renderItems_cons, List.append_assoc] at same
      exact absurd same.symm (render_append_ne (Bool.and_eq_true_iff.mp pw).1 rfl)
  | cons v vs =>
    obtain ⟨plain, others⟩ := Bool.and_eq_true_iff.mp pv
    rw [renderItems_cons, List.append_assoc] at same
    cases ws with
    | nil => exact absurd same (render_append_ne plain rfl)
    | cons w ws =>
      obtain ⟨plain', others'⟩ := Bool.and_eq_true_iff.mp pw
      rw [renderItems_cons, List.append_assoc] at same
      obtain ⟨rfl, after⟩ := render_append_injective plain plain'
        (noDigitFirst_afterItem vs x) (noDigitFirst_afterItem ws y) same
      -- A comma or the bracket tells whether another item follows.
      cases vs with
      | nil =>
        cases ws with
        | nil => exact ⟨rfl, (List.cons.inj after).2⟩
        | cons w ws => exact absurd (List.cons.inj after).1 (by decide)
      | cons v vs =>
        cases ws with
        | nil => exact absurd (List.cons.inj after).1 (by decide)
        | cons w ws =>
          obtain ⟨rest, last⟩ := renderItems_append_injective others others'
            (List.cons.inj after).2
          exact ⟨by rw [rest], last⟩

theorem renderFields_append_injective {fs gs : List (String × Json)} {x y : List Char}
    (pf : haveOnlyPlain fs = true) (pg : haveOnlyPlain gs = true)
    (same : renderFields fs ++ x = renderFields gs ++ y) : fs = gs ∧ x = y := by
  match fs, gs with
  | [], [] => exact ⟨rfl, (List.cons.inj same).2⟩
  | [], (k, v) :: gs =>
    rw [renderFields_cons] at same
    exact absurd (List.cons.inj same).1 (by decide)
  | (k, v) :: fs, [] =>
    rw [renderFields_cons] at same
    exact absurd (List.cons.inj same).1 (by decide)
  | (k, v) :: fs, (l, w) :: gs =>
    obtain ⟨plain, others⟩ := Bool.and_eq_true_iff.mp pf
    obtain ⟨plain', others'⟩ := Bool.and_eq_true_iff.mp pg
    rw [renderFields_cons, renderFields_cons, List.append_assoc, List.append_assoc] at same
    obtain ⟨names, values⟩ := renderText_append_injective same
    rw [List.cons_append, List.cons_append, List.append_assoc, List.append_assoc] at values
    obtain ⟨rfl, after⟩ := render_append_injective plain plain'
      (noDigitFirst_afterField fs x) (noDigitFirst_afterField gs y) (List.cons.inj values).2
    rw [String.toList_inj.mp names]
    match fs, gs with
    | [], [] => exact ⟨rfl, (List.cons.inj after).2⟩
    | [], _ :: _ => exact absurd (List.cons.inj after).1 (by decide)
    | _ :: _, [] => exact absurd (List.cons.inj after).1 (by decide)
    | f :: fs, g :: gs =>
      obtain ⟨rest, last⟩ := renderFields_append_injective others others'
        (List.cons.inj after).2
      exact ⟨by rw [rest], last⟩

end

theorem render_injective {v w : Json} (pv : v.isPlain = true) (pw : w.isPlain = true)
    (same : v.render = w.render) : v = w := by
  have none : NoDigitFirst [] := fun _ first => by cases first
  exact (render_append_injective pv pw none none (congrArg (· ++ []) same)).1

end Json

end MountProbe
