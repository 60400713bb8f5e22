import MountProbe.Pattern.CharSet

namespace MountProbe.Pattern

inductive Place where
  | textStart
  | textEnd
  /-- The start of the text or the place after a line feed. -/
  | lineStart
  /-- The end of the text or the place before a line feed. -/
  | lineEnd
  /-- The same where a carriage return and line feed together end a line. -/
  | crlfLineStart
  | crlfLineEnd
  | wordBoundary (unicode : Bool)
  | notWordBoundary (unicode : Bool)
  | wordStart (unicode : Bool)
  | wordEnd (unicode : Bool)
  | wordStartHalf (unicode : Bool)
  | wordEndHalf (unicode : Bool)
deriving DecidableEq, Repr

def isWordChar (unicode : Bool) (c : Option Char) : Bool :=
  c.any fun c => (CharSet.ranges (LetterClass.word.members unicode)).contains c.toNat

def Place.holds (before after : Option Char) : Place → Bool
  | textStart => before.isNone
  | textEnd => after.isNone
  | lineStart => before.isNone || before == some '\n'
  | lineEnd => after.isNone || after == some '\n'
  | crlfLineStart =>
    before.isNone || before == some '\n' || (before == some '\r' && after != some '\n')
  | crlfLineEnd =>
    after.isNone || after == some '\r' || (after == some '\n' && before != some '\r')
  | wordBoundary u => isWordChar u before != isWordChar u after
  | notWordBoundary u => isWordChar u before == isWordChar u after
  | wordStart u => !isWordChar u before && isWordChar u after
  | wordEnd u => isWordChar u before && !isWordChar u after
  | wordStartHalf u => !isWordChar u before
  | wordEndHalf u => !isWordChar u after

inductive Expr where
  | empty
  | set (s : CharSet)
  | place (p : Place)
  | seq (a b : Expr)
  | alt (a b : Expr)
  | repeated (a : Expr) (least : Nat) (most : Option Nat)
deriving Inhabited, Repr

inductive Chain (step : Nat → Nat → Prop) : Nat → Nat → Nat → Prop where
  | nil (i : Nat) : Chain step 0 i i
  | cons {n i j k : Nat} : step i j → Chain step n j k → Chain step (n + 1) i k

/-- The expression describes the text from place i to place j. -/
def Expr.Matches (text : List Char) : Expr → Nat → Nat → Prop
  | .empty, i, j => i = j
  | .set s, i, j => ∃ c, text[i]? = some c ∧ s.contains c.toNat = true ∧ j = i + 1
  | .place p, i, j =>
    i = j ∧ i ≤ text.length ∧
      p.holds (if i = 0 then none else text[i - 1]?) text[i]? = true
  | .seq a b, i, k => ∃ j, a.Matches text i j ∧ b.Matches text j k
  | .alt a b, i, j => a.Matches text i j ∨ b.Matches text i j
  | .repeated a least most, i, j =>
    ∃ n, least ≤ n ∧ (∀ m, most = some m → n ≤ m) ∧ Chain (a.Matches text) n i j

/-- The room, in bytes, that the states for a set take: one state for a range, and a share for
each further range. -/
def CharSet.room : CharSet → Nat
  | .empty => 24
  | .ranges t => if t.length ≤ 1 then 32 else 32 + 28 * t.length
  | .union a b | .inter a b | .diff a b | .symmDiff a b => a.room + b.room
  | .compl a => 200 + a.room
  | .anyCase a => 2 * a.room
  | .asciiAnyCase a => 2 * a.room

/-- The room, in bytes, that the states for an expression take. Repetition copies them. -/
def Expr.room : Expr → Nat
  | .empty => 24
  | .set s => s.room
  | .place _ => 24
  | .seq a b => a.room + b.room
  | .alt a b => 40 + a.room + b.room
  | .repeated a least most =>
    match most with
    | some most => 24 + most * (a.room + (if least < most then 32 else 0))
    | none => 32 + max least 1 * a.room

def roomLimit : Nat := 10 * Nat.pow 2 20

end MountProbe.Pattern
