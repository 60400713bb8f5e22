/-! Double-precision numbers as exact values: a finite number is a whole significand of at most
53 bits times a power of two. Operations form the exact result and round it once, to the nearest
number and of two equally near ones to the one with the even significand. -/
namespace MountProbe

inductive Binary64 where
  | nan
  | infinite (negative : Bool)
  /-- The number significand · 2 ^ exponent, negated if it is negative. -/
  | finite (negative : Bool) (significand : Nat) (exponent : Int)
deriving DecidableEq, Inhabited, Repr

namespace Binary64

def significandBound : Nat := Nat.pow 2 53

/-- The least exponent; only there may a significand have fewer than 53 bits. -/
def minExponent : Int := -1074

def maxExponent : Int := 971

/-- The one form that a number has: its significand takes all 53 bits unless its exponent is the
least. -/
def IsCanonical : Binary64 → Prop
  | nan => True
  | infinite _ => True
  | finite _ m e =>
    m < significandBound ∧ minExponent ≤ e ∧ e ≤ maxExponent ∧
      (significandBound / 2 ≤ m ∨ e = minExponent)

def zero : Binary64 := finite false 0 minExponent

/-- The power of two at which a quotient's significand has 53 bits, but not less than the least
exponent. -/
def exponentFor (num den : Nat) : Int :=
  let guess : Int := (num.log2 : Int) - den.log2
  let below := if 0 ≤ guess then num < den * Nat.pow 2 guess.toNat
    else num * Nat.pow 2 (-guess).toNat < den
  max minExponent ((if below then guess - 1 else guess) - 52)

/-- The whole number nearest to a quotient, of two the even one. -/
def roundQuotient (num den : Nat) : Nat :=
  let q := num / den
  let r := num % den
  if 2 * r < den then q
  else if 2 * r = den then (if q % 2 = 0 then q else q + 1)
  else q + 1

def ofRatio (negative : Bool) (num den : Nat) : Binary64 :=
  if num = 0 then finite negative 0 minExponent
  else
    let e := exponentFor num den
    let m :=
      if 0 ≤ e then roundQuotient num (den * Nat.pow 2 e.toNat)
      else roundQuotient (num * Nat.pow 2 (-e).toNat) den
    let (m, e) := if m = significandBound then (significandBound / 2, e + 1) else (m, e)
    if maxExponent < e then infinite negative else finite negative m e

def ofNat (n : Nat) : Binary64 :=
  ofRatio false n 1

def one : Binary64 := ofNat 1

def bits : Binary64 → Nat
  | nan => 0x7FF8000000000000
  | infinite negative => (if negative then Nat.pow 2 63 else 0) + 0x7FF0000000000000
  | finite negative m e =>
    (if negative then Nat.pow 2 63 else 0) +
      (if m < significandBound / 2 then m
      else (e + 1075).toNat * Nat.pow 2 52 + (m - significandBound / 2))

/-- The number as a whole number of units of 2 ^ exponent, for an exponent not above its own. -/
def units (negative : Bool) (m : Nat) (e unit : Int) : Int :=
  let magnitude : Int := m * Nat.pow 2 (e - unit).toNat
  if negative then -magnitude else magnitude

def ofUnits (n : Int) (unit : Int) : Binary64 :=
  if 0 ≤ unit then ofRatio (n < 0) (n.natAbs * Nat.pow 2 unit.toNat) 1
  else ofRatio (n < 0) n.natAbs (Nat.pow 2 (-unit).toNat)

def sub : Binary64 → Binary64 → Binary64
  | nan, _ | _, nan => nan
  | infinite a, infinite b => if a = b then nan else infinite a
  | infinite a, finite _ _ _ => infinite a
  | finite _ _ _, infinite b => infinite !b
  | finite a m e, finite b n f =>
    if m = 0 ∧ n = 0 then finite (a && !b) 0 minExponent
    else
      let unit := min e f
      ofUnits (units a m e unit - units b n f unit) unit

def mul : Binary64 → Binary64 → Binary64
  | nan, _ | _, nan => nan
  | infinite a, infinite b => infinite (a != b)
  | infinite a, finite b n _ => if n = 0 then nan else infinite (a != b)
  | finite a m _, infinite b => if m = 0 then nan else infinite (a != b)
  | finite a m e, finite b n f =>
    if 0 ≤ e + f then ofRatio (a != b) (m * n * Nat.pow 2 (e + f).toNat) 1
    else ofRatio (a != b) (m * n) (Nat.pow 2 (-(e + f)).toNat)

def div : Binary64 → Binary64 → Binary64
  | nan, _ | _, nan => nan
  | infinite _, infinite _ => nan
  | infinite a, finite b _ _ => infinite (a != b)
  | finite a _ _, infinite b => finite (a != b) 0 minExponent
  | finite a m e, finite b n f =>
    if n = 0 then (if m = 0 then nan else infinite (a != b))
    else if 0 ≤ e - f then ofRatio (a != b) (m * Nat.pow 2 (e - f).toNat) n
    else ofRatio (a != b) m (n * Nat.pow 2 (f - e).toNat)

/-- The first number is smaller than the second; a number that is none is in no order. -/
def lt : Binary64 → Binary64 → Bool
  | nan, _ | _, nan => false
  | infinite a, infinite b => a && !b
  | infinite a, finite _ _ _ => a
  | finite _ _ _, infinite b => !b
  | finite a m e, finite b n f => units a m e (min e f) < units b n f (min e f)

def isPositive (x : Binary64) : Bool :=
  zero.lt x

end Binary64

end MountProbe
