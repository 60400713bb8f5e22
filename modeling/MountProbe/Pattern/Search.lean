import MountProbe.Pattern.Expr

/-! Searching a text for a pattern. A set of places is a number whose bit i says that place i is a
member; an expression moves such a set to the places where a match that starts in it may end.
Nothing is tried twice, so a search takes no more steps than a product of the lengths of pattern
and text. -/
namespace MountProbe.Pattern

/-- An expression made ready for one text: which places its sets and places let through. -/
inductive Plan where
  | keep
  | filter (places : Nat)
  | advance (places : Nat)
  | seq (a b : Plan)
  | alt (a b : Plan)
  | repeated (a : Plan) (least : Nat) (most : Option Nat)

def placesBefore (s : CharSet) : List Char → Nat
  | [] => 0
  | c :: rest => 2 * placesBefore s rest + (if s.contains c.toNat then 1 else 0)

def placesOf (p : Place) : Option Char → List Char → Nat
  | before, [] => if p.holds before none then 1 else 0
  | before, c :: rest =>
    2 * placesOf p (some c) rest + (if p.holds before (some c) then 1 else 0)

def Expr.plan (text : List Char) : Expr → Plan
  | .empty => .keep
  | .set s => .advance (placesBefore s text)
  | .place p => .filter (placesOf p none text)
  | .seq a b => .seq (a.plan text) (b.plan text)
  | .alt a b => .alt (a.plan text) (b.plan text)
  | .repeated a least most => .repeated (a.plan text) least most

/-- Does a step a number of times. A step that changes nothing will change nothing again. -/
def iterate (step : Nat → Nat) : Nat → Nat → Nat
  | 0, places => places
  | n + 1, places =>
    let next := step places
    if next = places then places else iterate step n next

/-- Adds what a step reaches, a number of times or until nothing is added. -/
def closure (step : Nat → Nat) : Nat → Nat → Nat
  | 0, places => places
  | n + 1, places =>
    let next := places ||| step places
    if next = places then places else closure step n next

/-- The places where a match that starts at one of the given places may end, in a text of a given
length. -/
def Plan.ends (length : Nat) : Plan → Nat → Nat
  | keep, places => places
  | filter allowed, places => places &&& allowed
  | advance allowed, places => (places &&& allowed) <<< 1
  | seq a b, places => b.ends length (a.ends length places)
  | alt a b, places => a.ends length places ||| b.ends length places
  | repeated a least most, places =>
    let start := iterate (a.ends length) least places
    match most with
    | none => closure (a.ends length) (length + 1) start
    | some most => closure (a.ends length) (most - least) start

def Expr.isFoundIn (e : Expr) (text : List Char) : Bool :=
  (e.plan text).ends text.length (Nat.pow 2 (text.length + 1) - 1) != 0

end MountProbe.Pattern
