import MountProbe.Pattern.Scan

namespace MountProbe.Pattern

inductive ClassOp where
  | inter
  | diff
  | symmDiff

structure Nested where
  set : CharSet
  depth : Nat

/-- The members of a class so far: their union, their number, their greatest depth. -/
structure Members where
  set : CharSet := .empty
  count : Nat := 0
  depth : Nat := 0

def Members.push (m : Members) (s : CharSet) (depth : Nat) : Members :=
  { set := if m.count = 0 then s else .union m.set s, count := m.count + 1
    depth := max m.depth depth }

/-- The members as one part; a union of several is one level deeper. -/
def Members.part (m : Members) : Nested :=
  ⟨m.set, if m.count ≤ 1 then m.depth else m.depth + 1⟩

/-- What waits while a part of a class is read. -/
inductive ClassFrame where
  /-- A class that was opened among the members of another. -/
  | opened (outer : Members) (negated : Bool)
  /-- The left side of an operator. -/
  | operand (op : ClassOp) (left : Nested)

def Flags.foldCase (f : Flags) (s : CharSet) : CharSet :=
  if f.ignoreCase then (if f.unicode then .anyCase s else .asciiAnyCase s) else s

def ClassOp.apply (f : Flags) (op : ClassOp) (left right : Nested) : Nested :=
  let a := f.foldCase left.set
  let b := f.foldCase right.set
  let set :=
    match op with
    | inter => CharSet.inter a b
    | diff => CharSet.diff a b
    | symmDiff => CharSet.symmDiff a b
  ⟨set, max left.depth right.depth + 1⟩

def applyWaiting (f : Flags) (right : Nested) : List ClassFrame → Nested × List ClassFrame
  | .operand op left :: frames => (op.apply f left right, frames)
  | frames => (right, frames)

def closeClass (f : Flags) (negated : Bool) (part : Nested) : Except Fault Nested :=
  if negated ∧ ¬ f.unicode then .error .notText
  else .ok ⟨(f.foldCase part.set).negate negated, part.depth + 1⟩

def memberChar (f : Flags) (c : Char) : Except Fault Char :=
  if f.unicode ∨ c.toNat < 128 then .ok c else .error .notText

def readHyphens (f : Flags) : Nat → Members → List Char → Members × List Char
  | 0, m, cs => (m, cs)
  | fuel + 1, m, cs =>
    match cs with
    | '-' :: rest => readHyphens f fuel (m.push (.single '-') 0) (f.skip rest)
    | _ => (m, cs)

/-- Reads the start of a class after its bracket: whether it is negated, and the characters that
stand for themselves there, hyphens and a first closing bracket. -/
def openClass (f : Flags) (cs : List Char) : Except Fault (Bool × Members × List Char) :=
  let cs := f.skip cs
  let (negated, cs) :=
    match cs with
    | '^' :: rest => (true, f.skip rest)
    | _ => (false, cs)
  let (m, cs) := readHyphens f (cs.length + 1) {} cs
  match cs with
  | [] => .error .unclosedClass
  | ']' :: rest =>
    if m.count = 0 then
      if (f.skip rest).isEmpty then .error .unclosedClass
      else .ok (negated, m.push (.single ']') 0, f.skip rest)
    else .ok (negated, m, cs)
  | cs => .ok (negated, m, cs)

def readAsciiClass (f : Flags) (cs : List Char) : Option (Except Fault CharSet × List Char) :=
  match cs with
  | ':' :: rest =>
    let (negated, rest) :=
      match rest with
      | '^' :: more => (true, more)
      | _ => (false, rest)
    let name := rest.takeWhile (· != ':')
    match rest.dropWhile (· != ':') with
    | ':' :: ']' :: after =>
      (asciiClass? (String.ofList name)).map fun t =>
        (if negated ∧ ¬ f.unicode then .error .notText
        else .ok ((f.foldCase (.ranges t)).negate negated), after)
    | _ => none
  | _ => none

def readMember (f : Flags) : List Char → Except Fault (Atom × List Char)
  | [] => .error .unclosedClass
  | '\\' :: rest => readEscape f rest
  | c :: rest => .ok (.char c false, rest)

def peek (f : Flags) (rest : List Char) : Option Char :=
  if f.extended then (rest.dropWhile fun c => Text.isBlank c || c == '#').head? else rest.head?

def readMemberOrRange (f : Flags) (cs : List Char) : Except Fault (CharSet × List Char) := do
  let (first, rest) ← readMember f cs
  match f.skip rest with
  | [] => .error .unclosedClass
  | c :: more =>
    if c ≠ '-' ∨ peek f more = some ']' ∨ peek f more = some '-' then
      match first with
      | .char c _ => return (.single (← memberChar f c), f.skip rest)
      | .set s => return (s, f.skip rest)
      | .place _ => .error .badClassMember
    else
      let more := f.skip more
      if more.isEmpty then .error .unclosedClass
      else
        let (last, rest) ← readMember f more
        match first, last with
        | .char a _, .char b _ =>
          let a ← memberChar f a
          let b ← memberChar f b
          if a ≤ b then return (.range a.toNat b.toNat, rest) else .error .emptyRange
        | _, _ => .error .badClassMember

def readClassRest (f : Flags) :
    Nat → List ClassFrame → Members → List Char → Except Fault (Nested × List Char)
  | 0, _, _, _ => .error .unclosedClass
  | fuel + 1, frames, m, cs => do
    match f.skip cs with
    | [] => .error .unclosedClass
    | '[' :: rest =>
      match readAsciiClass f rest with
      | some (s, rest) => readClassRest f fuel frames (m.push (← s) 0) rest
      | none =>
        let (negated, inner, rest) ← openClass f rest
        readClassRest f fuel (.opened m negated :: frames) inner rest
    | ']' :: rest =>
      let (part, frames) := applyWaiting f m.part frames
      match frames with
      | .opened outer negated :: frames =>
        let closed ← closeClass f negated part
        match frames with
        | [] => return (closed, rest)
        | frames => readClassRest f fuel frames (outer.push closed.set closed.depth) rest
      | _ => .error .unclosedClass
    | '&' :: '&' :: rest => operator fuel frames m .inter rest
    | '-' :: '-' :: rest => operator fuel frames m .diff rest
    | '~' :: '~' :: rest => operator fuel frames m .symmDiff rest
    | cs =>
      let (s, rest) ← readMemberOrRange f cs
      readClassRest f fuel frames (m.push s 0) rest
where
  operator (fuel : Nat) (frames : List ClassFrame) (m : Members) (op : ClassOp)
      (rest : List Char) : Except Fault (Nested × List Char) :=
    let (left, frames) := applyWaiting f m.part frames
    readClassRest f fuel (.operand op left :: frames) {} rest

def readClass (f : Flags) (cs : List Char) : Except Fault (Nested × List Char) := do
  let (negated, m, rest) ← openClass f cs
  readClassRest f (rest.length + 1) [.opened {} negated] m rest

end MountProbe.Pattern
