import MountProbe.Binary64.Basic

/-! Double-precision numbers in decimal: the fewest digits that read back as the number, the
forms in which they are written, and reading them. -/
namespace MountProbe.Binary64

def decimalDigits (n : Nat) : List Char :=
  Nat.toDigits 10 n

/-- Digits d and a power of ten p that stand for d · 10 ^ p. -/
structure Decimal where
  digits : Nat
  power : Int
deriving DecidableEq, Repr

/-- The interval of reals that round to a number, as numerators over a denominator: the least,
the number itself, the greatest, the denominator, and whether the ends belong to it. -/
structure Neighbourhood where
  low : Nat
  value : Nat
  high : Nat
  den : Nat
  closed : Bool

/-- The neighbourhood of significand · 2 ^ exponent. Below a power of two numbers lie twice as
close as above it. -/
def neighbourhood (m : Nat) (e : Int) : Neighbourhood :=
  let gap := if m = significandBound / 2 ∧ minExponent < e then 1 else 2
  let e' := e - 2
  let (scale, den) := if 0 ≤ e' then (Nat.pow 2 e'.toNat, 1) else (1, Nat.pow 2 (-e').toNat)
  { low := (4 * m - gap) * scale, value := 4 * m * scale, high := (4 * m + 2) * scale,
    den := den, closed := m % 2 = 0 }

def Neighbourhood.contains (n : Neighbourhood) (d : Nat) (p : Int) : Bool :=
  let (x, scale) :=
    if 0 ≤ p then (d * Nat.pow 10 p.toNat * n.den, 1) else (d * n.den, Nat.pow 10 (-p).toNat)
  if n.closed then n.low * scale ≤ x && x ≤ n.high * scale
  else n.low * scale < x && x < n.high * scale

/-- The grid neighbour of the number, on the grid of multiples of 10 ^ p, that reads back and is
nearest; of two equally near ones the greater. -/
def Neighbourhood.onGrid (n : Neighbourhood) (p : Int) : Option Nat :=
  let (num, den) :=
    if 0 ≤ p then (n.value, n.den * Nat.pow 10 p.toNat)
    else (n.value * Nat.pow 10 (-p).toNat, n.den)
  let below := num / den
  let above := below + 1
  let nearerAbove := den ≤ 2 * (num % den)
  let (first, second) := if nearerAbove then (above, below) else (below, above)
  if n.contains first p then some first
  else if n.contains second p then some second
  else none

def Neighbourhood.search (n : Neighbourhood) : Nat → Int → Decimal
  | 0, p => ⟨(n.onGrid p).getD 0, p⟩
  | k + 1, p =>
    match n.onGrid p with
    | some d => ⟨d, p⟩
    | none => n.search k (p - 1)

/-- The fewest digits that read back as significand · 2 ^ exponent, and of those the nearest. -/
def shortest (m : Nat) (e : Int) : Decimal :=
  if m = 0 then ⟨0, 0⟩
  else
    let bits : Int := (m.log2 : Int) + e
    -- 10 ^ top is at least the number: a third of its bits, rounded up, when it is large
    let top : Int := if 0 ≤ bits then bits / 3 + 1 else bits * 3 / 10 + 1
    (neighbourhood m e).search 400 top

def zeros (n : Nat) : List Char :=
  List.replicate n '0'

def Decimal.positional (d : Decimal) : List Char :=
  let ds := decimalDigits d.digits
  if 0 ≤ d.power then ds ++ zeros d.power.toNat
  else
    let places := (-d.power).toNat
    if places < ds.length then
      ds.take (ds.length - places) ++ '.' :: ds.drop (ds.length - places)
    else '0' :: '.' :: zeros (places - ds.length) ++ ds

def sign (negative : Bool) : List Char :=
  if negative then ['-'] else []

/-- The number as metrics show it: the fewest digits, never an exponent, no point in a whole
number. -/
def display : Binary64 → String
  | nan => "NaN"
  | infinite negative => String.ofList (sign negative ++ ['i', 'n', 'f'])
  | finite negative m e =>
    String.ofList (sign negative ++ (if m = 0 then ['0'] else (shortest m e).positional))

def Decimal.scientific (d : Decimal) : List Char :=
  let ds := decimalDigits d.digits
  let power : Int := d.power + (ds.length - 1 : Nat)
  let tail := if ds.length ≤ 1 then [] else '.' :: ds.drop 1
  ds.take 1 ++ tail ++ 'e' :: (if 0 ≤ power then '+' else '-') :: decimalDigits power.natAbs

/-- The number as structured output shows it: the fewest digits with a point, an exponent from
10 ^ 16 on and below 10 ^ -5; what is no number is null. -/
def jsonNumeral : Binary64 → String
  | nan => "null"
  | infinite _ => "null"
  | finite negative m e =>
    if m = 0 then String.ofList (sign negative ++ ['0', '.', '0'])
    else
      let d := shortest m e
      let point : Int := (decimalDigits d.digits).length + d.power
      let body :=
        if -5 < point ∧ point ≤ 16 then
          if 0 ≤ d.power then d.positional ++ ['.', '0'] else d.positional
        else d.scientific
      String.ofList (sign negative ++ body)

/-- The number with a fixed number of places; a half goes to the even neighbour. -/
def fixed (places : Nat) : Binary64 → String
  | nan => "NaN"
  | infinite negative => String.ofList (sign negative ++ ['i', 'n', 'f'])
  | finite negative m e =>
    let n :=
      if 0 ≤ e then m * Nat.pow 2 e.toNat * Nat.pow 10 places
      else roundQuotient (m * Nat.pow 10 places) (Nat.pow 2 (-e).toNat)
    let whole := decimalDigits (n / Nat.pow 10 places)
    let rest := decimalDigits (n % Nat.pow 10 places)
    let tail := if places = 0 then [] else '.' :: zeros (places - rest.length) ++ rest
    String.ofList (sign negative ++ whole ++ tail)

def digitsValue (cs : List Char) : Nat :=
  cs.foldl (fun n c => n * 10 + (c.toNat - 48)) 0

/-- The number nearest to digits · 10 ^ power. Powers beyond every number are cut off first. -/
def ofDecimal (negative : Bool) (digits : Nat) (power : Int) : Binary64 :=
  if digits = 0 then finite negative 0 minExponent
  else
    let size : Int := (decimalDigits digits).length + power
    if 400 < size then infinite negative
    else if size < -400 then finite negative 0 minExponent
    else if 0 ≤ power then ofRatio negative (digits * Nat.pow 10 power.toNat) 1
    else ofRatio negative digits (Nat.pow 10 (-power).toNat)

def readExponent : List Char → Option Int
  | [] => some 0
  | mark :: rest =>
    if mark = 'e' ∨ mark = 'E' then
      let (negative, ds) :=
        match rest with
        | '-' :: ds => (true, ds)
        | '+' :: ds => (false, ds)
        | ds => (false, ds)
      if ds.isEmpty || !ds.all Char.isDigit then none
      else
        let n : Int := digitsValue ds
        some (if negative then -n else n)
    else none

def readMagnitude (negative : Bool) (cs : List Char) : Option Binary64 :=
  let word := (String.ofList cs).toLower
  if word = "inf" ∨ word = "infinity" then some (infinite negative)
  else if word = "nan" then some nan
  else
    let whole := cs.takeWhile Char.isDigit
    let afterWhole := cs.dropWhile Char.isDigit
    let (places, rest) :=
      match afterWhole with
      | '.' :: more => (more.takeWhile Char.isDigit, more.dropWhile Char.isDigit)
      | other => ([], other)
    if whole.isEmpty && places.isEmpty then none
    else
      (readExponent rest).map fun power =>
        ofDecimal negative (digitsValue (whole ++ places)) (power - places.length)

def read? (s : String) : Option Binary64 :=
  match s.toList with
  | '-' :: rest => readMagnitude true rest
  | '+' :: rest => readMagnitude false rest
  | cs => readMagnitude false cs

end MountProbe.Binary64
