import MountProbe.Json

namespace MountProbe

def Unbroken (cs : List Char) : Prop :=
  ∀ c ∈ cs, 0x20 ≤ c.toNat

namespace Unbroken

theorem nil : Unbroken [] := by
  simp [Unbroken]

theorem cons {c : Char} {cs : List Char} (head : 0x20 ≤ c.toNat) (tail : Unbroken cs) :
    Unbroken (c :: cs) :=
  List.forall_mem_cons.mpr ⟨head, tail⟩

theorem append {as bs : List Char} (first : Unbroken as) (last : Unbroken bs) :
    Unbroken (as ++ bs) :=
  List.forall_mem_append.mpr ⟨first, last⟩

theorem flatMap {f : Char → List Char} (each : ∀ c, Unbroken (f c)) (cs : List Char) :
    Unbroken (cs.flatMap f) := by
  intro d member
  obtain ⟨c, _, here⟩ := List.mem_flatMap.mp member
  exact each c d here

theorem of_sublist {as bs : List Char} (h : Unbroken bs) (sub : as.Sublist bs) : Unbroken as :=
  fun c member => h c (sub.subset member)

theorem newline_not_mem {cs : List Char} (h : Unbroken cs) : '\n' ∉ cs := by
  intro member
  exact absurd (h _ member) (by decide)

end Unbroken

namespace Binary64

theorem unbroken_decimalDigits (n : Nat) : Unbroken (decimalDigits n) := by
  intro c member
  have digit := Nat.isDigit_of_mem_toDigits (by decide) (by decide) member
  simp only [Char.isDigit, Bool.and_eq_true, decide_eq_true_eq] at digit
  have low : '0'.toNat ≤ c.toNat := digit.1
  exact Nat.le_trans (by decide) low

theorem unbroken_zeros (n : Nat) : Unbroken (zeros n) := by
  intro c member
  rw [List.eq_of_mem_replicate member]
  decide

theorem unbroken_sign (negative : Bool) : Unbroken (sign negative) := by
  cases negative <;> simp [sign, Unbroken]

theorem unbroken_positional (d : Decimal) : Unbroken d.positional := by
  have digits := unbroken_decimalDigits d.digits
  unfold Decimal.positional
  dsimp only
  split
  · exact digits.append (unbroken_zeros _)
  · split
    · exact (digits.of_sublist (List.take_sublist ..)).append
        (.cons (by decide) (digits.of_sublist (List.drop_sublist ..)))
    · exact .cons (by decide) (.cons (by decide) ((unbroken_zeros _).append digits))

theorem unbroken_scientific (d : Decimal) : Unbroken d.scientific := by
  have digits := unbroken_decimalDigits d.digits
  unfold Decimal.scientific
  dsimp only
  have exponent : ∀ power : Int, Unbroken
      ('e' :: (if 0 ≤ power then '+' else '-') :: decimalDigits power.natAbs) := by
    intro power
    refine .cons (by decide) (.cons ?_ (unbroken_decimalDigits _))
    split <;> decide
  refine .append (.append (digits.of_sublist (List.take_sublist ..)) ?_) (exponent _)
  split
  · exact .nil
  · exact .cons (by decide) (digits.of_sublist (List.drop_sublist ..))

theorem unbroken_jsonNumeral (x : Binary64) : Unbroken x.jsonNumeral.toList := by
  cases x with
  | nan => simp [jsonNumeral, Unbroken]
  | infinite negative => simp [jsonNumeral, Unbroken]
  | finite negative m e =>
    rw [jsonNumeral]
    split
    · rw [String.toList_ofList]
      exact (unbroken_sign negative).append (by simp [Unbroken])
    · dsimp only
      rw [String.toList_ofList]
      refine (unbroken_sign negative).append ?_
      split
      · split
        · exact (unbroken_positional _).append (by simp [Unbroken])
        · exact unbroken_positional _
      · exact unbroken_scientific _

end Binary64

namespace Json

theorem hexDigit_visible : ∀ n < 16, 0x20 ≤ (hexDigit n).toNat := by
  decide

theorem unbroken_escapeChar (c : Char) : Unbroken (escapeChar c) := by
  unfold escapeChar
  repeat' split
  all_goals try simp [Unbroken]
  · exact ⟨hexDigit_visible _ (by omega), hexDigit_visible _ (by omega)⟩
  · omega

theorem unbroken_renderText (s : List Char) : Unbroken (renderText s) :=
  .cons (by decide) (.append (.flatMap unbroken_escapeChar s) (by simp [Unbroken]))

mutual

theorem unbroken_render (v : Json) : Unbroken (render v) := by
  cases v with
  | null => simp [render, Unbroken]
  | bool b => cases b <;> simp [render, Unbroken]
  | whole n => exact Binary64.unbroken_decimalDigits n
  | real x => exact x.unbroken_jsonNumeral
  | text s => exact unbroken_renderText s.toList
  | list items => exact .cons (by decide) (unbroken_renderItems items)
  | object fields => exact .cons (by decide) (unbroken_renderFields fields)

theorem unbroken_renderItems (items : List Json) : Unbroken (renderItems items) := by
  match items with
  | [] => simp [renderItems, Unbroken]
  | [v] => exact (unbroken_render v).append (by simp [Unbroken])
  | v :: w :: rest =>
    exact (unbroken_render v).append (.cons (by decide) (unbroken_renderItems (w :: rest)))

theorem unbroken_renderFields (fields : List (String × Json)) :
    Unbroken (renderFields fields) := by
  match fields with
  | [] => simp [renderFields, Unbroken]
  | [(k, v)] =>
    exact ((unbroken_renderText _).append (.cons (by decide) (unbroken_render v))).append
      (by simp [Unbroken])
  | (k, v) :: f :: rest =>
    exact ((unbroken_renderText _).append (.cons (by decide) (unbroken_render v))).append
      (.cons (by decide) (unbroken_renderFields (f :: rest)))

end

theorem newline_not_mem_toLine (v : Json) : '\n' ∉ v.toLine.toList := by
  rw [toLine, String.toList_ofList]
  exact (unbroken_render v).newline_not_mem

end Json

end MountProbe
