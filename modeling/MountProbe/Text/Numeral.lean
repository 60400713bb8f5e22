namespace MountProbe.Text

inductive NumeralFault where
  | empty
  | badDigit
  | tooLarge
deriving DecidableEq, Repr

def NumeralFault.message : NumeralFault → String
  | .empty => "cannot parse integer from empty string"
  | .badDigit => "invalid digit found in string"
  | .tooLarge => "number too large to fit in target type"

def digitValue (c : Char) : Option Nat :=
  if '0' ≤ c ∧ c ≤ '9' then some (c.toNat - 48) else none

/-- Reads decimal digits onto a number, which stays within a limit. The first character that is
no digit, or takes the number over the limit, decides the fault. -/
def readDigits (limit : Nat) : Nat → List Char → Except NumeralFault Nat
  | acc, [] => .ok acc
  | acc, c :: rest =>
    match digitValue c with
    | none => .error .badDigit
    | some d =>
      if limit < acc * 10 + d then .error .tooLarge else readDigits limit (acc * 10 + d) rest

/-- Reads a whole number up to a limit: digits, leading zeros allowed, after at most one plus
sign. -/
def readNumeral (limit : Nat) (s : String) : Except NumeralFault Nat :=
  match s.toList with
  | [] => .error .empty
  | ['+'] => .error .badDigit
  | '+' :: rest => readDigits limit 0 rest
  | cs => readDigits limit 0 cs

def maxWord32 : Nat := 4294967295

def maxWord64 : Nat := 18446744073709551615

/-- Reads a truth value; no spelling but these two is one. -/
def readTruth (s : String) : Option Bool :=
  if s = "true" then some true else if s = "false" then some false else none

def hex16 (n : Nat) : String :=
  let ds := Nat.toDigits 16 n
  String.ofList (List.replicate (16 - ds.length) '0' ++ ds)

end MountProbe.Text
