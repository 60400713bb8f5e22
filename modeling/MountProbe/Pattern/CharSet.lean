import MountProbe.Unicode.CaseFolding
import MountProbe.Unicode.Script
import MountProbe.Unicode.Word

namespace MountProbe.Pattern

open Unicode (Ranges)

inductive CharSet where
  | empty
  | ranges (table : Ranges)
  | union (a b : CharSet)
  | inter (a b : CharSet)
  | diff (a b : CharSet)
  | symmDiff (a b : CharSet)
  | compl (a : CharSet)
  /-- All forms, small and capital, of the members. -/
  | anyCase (a : CharSet)
  /-- The members and the other case of those that are ASCII letters. -/
  | asciiAnyCase (a : CharSet)
deriving Inhabited, Repr

def asciiOther (n : Nat) : Nat :=
  if 65 ≤ n ∧ n ≤ 90 then n + 32 else if 97 ≤ n ∧ n ≤ 122 then n - 32 else n

namespace CharSet

def contains : CharSet → Nat → Bool
  | empty, _ => false
  | ranges table, n => table.contains n
  | union a b, n => a.contains n || b.contains n
  | inter a b, n => a.contains n && b.contains n
  | diff a b, n => a.contains n && !b.contains n
  | symmDiff a b, n => a.contains n != b.contains n
  | compl a, n => !a.contains n
  | anyCase a, n => a.contains n || (Unicode.forms n).any a.contains
  | asciiAnyCase a, n => a.contains n || a.contains (asciiOther n)

def range (first last : Nat) : CharSet :=
  ranges [(first, last, 1)]

def single (c : Char) : CharSet :=
  range c.toNat c.toNat

def all : CharSet :=
  range 0 0x10FFFF

def negate (negated : Bool) (s : CharSet) : CharSet :=
  if negated then compl s else s

end CharSet

inductive LetterClass where
  | digit
  | space
  | word
deriving DecidableEq, Repr

def LetterClass.members (unicode : Bool) : LetterClass → Ranges
  | digit => if unicode then Unicode.Category.decimalNumber else [(48, 57, 1)]
  | space => if unicode then Unicode.whiteSpace else [(9, 13, 1), (32, 32, 1)]
  | word => if unicode then Unicode.word else [(48, 57, 1), (65, 90, 1), (95, 95, 1), (97, 122, 1)]

def asciiClass? : String → Option Ranges
  | "alnum" => some [(48, 57, 1), (65, 90, 1), (97, 122, 1)]
  | "alpha" => some [(65, 90, 1), (97, 122, 1)]
  | "ascii" => some [(0, 127, 1)]
  | "blank" => some [(9, 9, 1), (32, 32, 1)]
  | "cntrl" => some [(0, 31, 1), (127, 127, 1)]
  | "digit" => some [(48, 57, 1)]
  | "graph" => some [(33, 126, 1)]
  | "lower" => some [(97, 122, 1)]
  | "print" => some [(32, 126, 1)]
  | "punct" => some [(33, 47, 1), (58, 64, 1), (91, 96, 1), (123, 126, 1)]
  | "space" => some [(9, 13, 1), (32, 32, 1)]
  | "upper" => some [(65, 90, 1)]
  | "word" => some [(48, 57, 1), (65, 90, 1), (95, 95, 1), (97, 122, 1)]
  | "xdigit" => some [(48, 57, 1), (65, 70, 1), (97, 102, 1)]
  | _ => none

def categories : List (List String × Ranges) :=
  open Unicode.Category in [
  (["l", "letter"], letter), (["lc", "casedletter"], casedLetter),
  (["lu", "uppercaseletter"], uppercaseLetter), (["ll", "lowercaseletter"], lowercaseLetter),
  (["lt", "titlecaseletter"], titlecaseLetter), (["lm", "modifierletter"], modifierLetter),
  (["lo", "otherletter"], otherLetter), (["m", "mark", "combiningmark"], mark),
  (["mn", "nonspacingmark"], nonspacingMark), (["mc", "spacingmark"], spacingMark),
  (["me", "enclosingmark"], enclosingMark), (["n", "number"], number),
  (["nd", "decimalnumber", "digit"], decimalNumber), (["nl", "letternumber"], letterNumber),
  (["no", "othernumber"], otherNumber), (["p", "punctuation", "punct"], punctuation),
  (["pc", "connectorpunctuation"], connectorPunctuation),
  (["pd", "dashpunctuation"], dashPunctuation), (["ps", "openpunctuation"], openPunctuation),
  (["pe", "closepunctuation"], closePunctuation),
  (["pi", "initialpunctuation"], initialPunctuation),
  (["pf", "finalpunctuation"], finalPunctuation), (["po", "otherpunctuation"], otherPunctuation),
  (["s", "symbol"], symbol), (["sm", "mathsymbol"], mathSymbol),
  (["sc", "currencysymbol"], currencySymbol), (["sk", "modifiersymbol"], modifierSymbol),
  (["so", "othersymbol"], otherSymbol), (["z", "separator"], separator),
  (["zs", "spaceseparator"], spaceSeparator), (["zl", "lineseparator"], lineSeparator),
  (["zp", "paragraphseparator"], paragraphSeparator), (["cc", "control", "cntrl"], control),
  (["cf", "format"], format), (["cs", "surrogate"], surrogate),
  (["co", "privateuse"], privateUse)]

/-- A property name without the differences that do not count: case, blanks, hyphens,
underscores, and "is" at the start. -/
def plainName (name : List Char) : String :=
  let kept := (name.filter fun c => c.toNat < 128 && c != ' ' && c != '_' && c != '-').map
    Char.toLower
  match kept with
  | 'i' :: 's' :: rest => if rest = ['c'] then "isc" else String.ofList rest
  | _ => String.ofList kept

def category? (name : String) : Option CharSet :=
  if name = "any" then some .all
  else if name = "ascii" then some (.range 0 127)
  else if name = "assigned" then some (.ranges Unicode.Category.assigned)
  else if name = "cn" ∨ name = "unassigned" then
    some (.compl (.ranges Unicode.Category.assigned))
  else if name = "c" ∨ name = "other" then
    some (.union (.compl (.ranges Unicode.Category.assigned))
      (.ranges (Unicode.Category.control ++ Unicode.Category.format ++
        Unicode.Category.surrogate ++ Unicode.Category.privateUse)))
  else (categories.find? fun (names, _) => names.contains name).map fun (_, t) => .ranges t

def property? (name : String) : Option CharSet :=
  if name = "alphabetic" ∨ name = "alpha" then some (.ranges Unicode.alphabetic)
  else if name = "whitespace" ∨ name = "wspace" ∨ name = "space" then
    some (.ranges Unicode.whiteSpace)
  else
    match category? name with
    | some s => some s
    | none => (Unicode.script? name).map .ranges

def propertyValue? (property value : String) : Option CharSet :=
  if property = "gc" ∨ property = "generalcategory" then category? value
  else if property = "sc" ∨ property = "script" ∨ property = "scx" ∨ property = "scriptextensions"
  then (Unicode.script? value).map .ranges
  else none

end MountProbe.Pattern
