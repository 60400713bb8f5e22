import MountProbe.Pattern.ClassReader
import MountProbe.Pattern.Search

/-! Reading written patterns. Flags hold from where they are set to the end of the group that they
are set in. A pattern is refused if it cannot be read, is nested too deeply, or needs too much
room. -/
namespace MountProbe.Pattern

/-- A part of a pattern, how deeply it is nested, and whether it can be repeated. -/
structure Piece where
  expr : Expr
  depth : Nat
  repeatable : Bool := true

/-- The parts read so far at one level, latest first: those in sequence, and the choices before
them. -/
structure Level where
  items : List Piece := []
  choices : List Piece := []

/-- A group that was opened: the level around it and the flags to go back to. -/
structure Group where
  outer : Level
  flags : Flags

def greatestDepth (pieces : List Piece) : Nat :=
  pieces.foldl (fun d p => max d p.depth) 0

def sequence : List Piece → Piece
  | [] => ⟨.empty, 0, false⟩
  | [p] => p
  | p :: ps =>
    ⟨ps.foldl (fun e q => .seq q.expr e) p.expr, greatestDepth (p :: ps) + 1, true⟩

def choice : List Piece → Piece
  | [] => ⟨.empty, 0, false⟩
  | [p] => p
  | p :: ps =>
    ⟨ps.foldl (fun e q => .alt q.expr e) p.expr, greatestDepth (p :: ps) + 1, true⟩

def Level.close (l : Level) : Piece :=
  choice (sequence l.items :: l.choices)

def Level.push (l : Level) (p : Piece) : Level :=
  { l with items := p :: l.items }

def charExpr (f : Flags) (c : Char) (asByte : Bool) : Except Fault Expr :=
  if ¬ f.unicode ∧ asByte ∧ 128 ≤ c.toNat then .error .notText
  else .ok (.set (f.foldCase (.single c)))

def anyExpr (f : Flags) : Except Fault Expr :=
  if ¬ f.unicode then .error .notText
  else if f.dotMatchesNewline then .ok (.set .all)
  else if f.crlf then .ok (.set (.compl (.ranges [(10, 10, 1), (13, 13, 1)])))
  else .ok (.set (.compl (.single '\n')))

def startPlace (f : Flags) : Place :=
  if f.multiLine then (if f.crlf then .crlfLineStart else .lineStart) else .textStart

def endPlace (f : Flags) : Place :=
  if f.multiLine then (if f.crlf then .crlfLineEnd else .lineEnd) else .textEnd

def atomExpr (f : Flags) : Atom → Except Fault Expr
  | .char c asByte => charExpr f c asByte
  | .set s => .ok (.set s)
  | .place p => .ok (.place p)

def Level.repeatLast (l : Level) (least : Nat) (most : Option Nat) : Except Fault Level :=
  match l.items with
  | p :: ps =>
    if p.repeatable then
      .ok { l with items := ⟨.repeated p.expr least most, p.depth + 1, true⟩ :: ps }
    else .error .nothingToRepeat
  | [] => .error .nothingToRepeat

/-- Without the mark that a repetition takes as little as it can, which does not change what is
found. -/
def skipLazy : List Char → List Char
  | '?' :: rest => rest
  | cs => cs

def isNameStart (c : Char) : Bool :=
  c == '_' || Unicode.alphabetic.contains c.toNat

def isNamePart (c : Char) : Bool :=
  isNameStart c || c == '.' || c == '[' || c == ']' || Unicode.Category.number.contains c.toNat

def readGroupName (cs : List Char) : Except Fault (List Char × List Char) :=
  let name := cs.takeWhile (· != '>')
  match cs.dropWhile (· != '>'), name with
  | '>' :: rest, c :: more =>
    if isNameStart c && more.all isNamePart then .ok (name, rest) else .error .groupName
  | _, _ => .error .groupName

inductive Opening where
  | flags (f : Flags)
  | group (f : Flags)
  | named (name : List Char)

def readOpening (f : Flags) (cs : List Char) : Except Fault (Opening × List Char) := do
  match f.skip cs with
  | '?' :: '=' :: _ | '?' :: '!' :: _ | '?' :: '<' :: '=' :: _ | '?' :: '<' :: '!' :: _ =>
    .error .lookAround
  | '?' :: 'P' :: '<' :: rest =>
    let (name, rest) ← readGroupName rest
    return (.named name, rest)
  | '?' :: '<' :: rest =>
    let (name, rest) ← readGroupName rest
    return (.named name, rest)
  | '?' :: rest =>
    let (f', seen, rest) ← readFlags f [] true rest
    match rest with
    | ')' :: rest => if seen.isEmpty then .error .nothingToRepeat else return (.flags f', rest)
    | _ :: rest => return (.group f', rest)
    | [] => .error .unexpectedEnd
  | rest => return (.group f, rest)

/-- Reads a pattern, given the flags in force, the groups that are open, the names of groups so
far, and the level at hand. -/
def readParts : Nat → Flags → List Group → List (List Char) → Level → List Char →
    Except Fault Piece
  | 0, _, _, _, _, _ => .error .unexpectedEnd
  | fuel + 1, f, groups, names, level, cs => do
    match f.skip cs with
    | [] => if groups.isEmpty then return level.close else .error .unclosedGroup
    | '(' :: rest =>
      let (opening, rest) ← readOpening f rest
      match opening with
      | .flags f' =>
        readParts fuel f' groups names (level.push ⟨.empty, 0, false⟩) rest
      | .group f' => readParts fuel f' (⟨level, f⟩ :: groups) names {} rest
      | .named name =>
        if names.contains name then .error .duplicateGroupName
        else readParts fuel f (⟨level, f⟩ :: groups) (name :: names) {} rest
    | ')' :: rest =>
      match groups with
      | [] => .error .unopenedGroup
      | g :: groups =>
        let p := level.close
        readParts fuel g.flags groups names (g.outer.push ⟨p.expr, p.depth + 1, true⟩) rest
    | '|' :: rest =>
      readParts fuel f groups names
        { items := [], choices := sequence level.items :: level.choices } rest
    | '[' :: rest =>
      let (s, rest) ← readClass f rest
      readParts fuel f groups names (level.push ⟨.set s.set, s.depth, true⟩) rest
    | '?' :: rest =>
      readParts fuel f groups names (← level.repeatLast 0 (some 1)) (skipLazy rest)
    | '*' :: rest => readParts fuel f groups names (← level.repeatLast 0 none) (skipLazy rest)
    | '+' :: rest => readParts fuel f groups names (← level.repeatLast 1 none) (skipLazy rest)
    | '\x7b' :: rest =>
      let ((least, most), rest) ← readBounds f rest
      readParts fuel f groups names (← level.repeatLast least most) (skipLazy (f.skip rest))
    | '.' :: rest =>
      readParts fuel f groups names (level.push ⟨← anyExpr f, 0, true⟩) rest
    | '^' :: rest =>
      readParts fuel f groups names (level.push ⟨.place (startPlace f), 0, true⟩) rest
    | '$' :: rest =>
      readParts fuel f groups names (level.push ⟨.place (endPlace f), 0, true⟩) rest
    | '\\' :: rest =>
      let (atom, rest) ← readEscape f rest
      readParts fuel f groups names (level.push ⟨← atomExpr f atom, 0, true⟩) rest
    | c :: rest =>
      readParts fuel f groups names (level.push ⟨← charExpr f c false, 0, true⟩) rest

def depthLimit : Nat := 250

def read (source : List Char) : Except Fault Expr := do
  let p ← readParts (source.length + 1) {} [] [] {} source
  if depthLimit < p.depth then .error .tooDeep
  else if roomLimit < p.expr.room then .error .tooLarge
  else return p.expr

end MountProbe.Pattern
