import MountProbe.Pattern.Expr
import MountProbe.Text.Blank
import MountProbe.Text.Numeral

namespace MountProbe.Pattern

inductive Fault where
  | unexpectedEnd
  | backreference
  | unknownEscape
  | badHexadecimal
  | notACharacter
  | unknownProperty
  | badWordBoundary
  | groupName
  | duplicateGroupName
  | lookAround
  | badFlags
  | unopenedGroup
  | unclosedGroup
  | unclosedClass
  | badClassMember
  | emptyRange
  | nothingToRepeat
  | badRepetition
  | notText
  | tooDeep
  | tooLarge
deriving DecidableEq, Repr

def Fault.message : Fault → String
  | unexpectedEnd => "pattern ends too early"
  | backreference => "backreferences are not supported"
  | unknownEscape => "unrecognized escape sequence"
  | badHexadecimal => "invalid hexadecimal digit"
  | notACharacter => "hexadecimal literal is no character"
  | unknownProperty => "unknown character property"
  | badWordBoundary => "unknown word boundary assertion"
  | groupName => "invalid group name"
  | duplicateGroupName => "duplicate group name"
  | lookAround => "look-around is not supported"
  | badFlags => "invalid flags"
  | unopenedGroup => "unopened group"
  | unclosedGroup => "unclosed group"
  | unclosedClass => "unclosed character class"
  | badClassMember => "no member of a character class"
  | emptyRange => "invalid character class range, the start must not be greater than the end"
  | nothingToRepeat => "repetition operator missing expression"
  | badRepetition => "invalid repetition count"
  | notText => "pattern can match what is not text"
  | tooDeep => "pattern is nested too deeply"
  | tooLarge => "pattern needs too much room"

structure Flags where
  ignoreCase : Bool := false
  multiLine : Bool := false
  dotMatchesNewline : Bool := false
  swapGreed : Bool := false
  unicode : Bool := true
  crlf : Bool := false
  extended : Bool := false

def skipIgnored : Bool → List Char → List Char
  | _, [] => []
  | true, c :: rest => skipIgnored (c != '\n') rest
  | false, c :: rest =>
    if Text.isBlank c then skipIgnored false rest
    else if c = '#' then skipIgnored true rest
    else c :: rest

def Flags.skip (f : Flags) (cs : List Char) : List Char :=
  if f.extended then skipIgnored false cs else cs

def Flags.set (f : Flags) (on : Bool) : Char → Option Flags
  | 'i' => some { f with ignoreCase := on }
  | 'm' => some { f with multiLine := on }
  | 's' => some { f with dotMatchesNewline := on }
  | 'U' => some { f with swapGreed := on }
  | 'u' => some { f with unicode := on }
  | 'R' => some { f with crlf := on }
  | 'x' => some { f with extended := on }
  | _ => none

/-- Reads flags up to a colon or closing parenthesis, which is not consumed. -/
def readFlags (f : Flags) (seen : List Char) (on : Bool) :
    List Char → Except Fault (Flags × List Char × List Char)
  | [] => .error .unexpectedEnd
  | c :: rest =>
    if c = ':' ∨ c = ')' then
      if seen.head? = some '-' then .error .badFlags else .ok (f, seen, c :: rest)
    else if seen.contains c then .error .badFlags
    else if c = '-' then readFlags f ('-' :: seen) false rest
    else
      match f.set on c with
      | none => .error .badFlags
      | some f' => readFlags f' (c :: seen) on rest

def isHexadecimal (c : Char) : Bool :=
  c.isDigit || ('a' ≤ c && c ≤ 'f') || ('A' ≤ c && c ≤ 'F')

def hexValue (c : Char) : Nat :=
  if c.isDigit then c.toNat - 48 else if 'a' ≤ c then c.toNat - 87 else c.toNat - 55

def charOfHex (digits : List Char) : Except Fault Char :=
  let n := digits.foldl (fun n c => n * 16 + hexValue c) 0
  if n ≤ 0x10FFFF ∧ ¬ (0xD800 ≤ n ∧ n ≤ 0xDFFF) then .ok (Char.ofNat n) else .error .notACharacter

def readHexDigits (f : Flags) :
    Nat → List Char → List Char → Except Fault (List Char × List Char)
  | 0, acc, cs => .ok (acc.reverse, cs)
  | _ + 1, _, [] => .error .unexpectedEnd
  | n + 1, acc, c :: rest =>
    if isHexadecimal c then readHexDigits f n (c :: acc) (f.skip rest) else .error .badHexadecimal

def readBraced (f : Flags) : Nat → List Char → List Char → Except Fault (List Char × List Char)
  | 0, _, _ => .error .unexpectedEnd
  | fuel + 1, acc, cs =>
    match f.skip cs with
    | [] => .error .unexpectedEnd
    | c :: rest => if c = '\x7d' then .ok (acc.reverse, rest) else readBraced f fuel (c :: acc) rest

/-- Reads a hexadecimal escape after its letter, which says how many digits it has without
braces. -/
def readHexEscape (f : Flags) (width : Nat) (cs : List Char) :
    Except Fault (Char × List Char) := do
  match f.skip cs with
  | [] => .error .unexpectedEnd
  | '\x7b' :: rest =>
    let (digits, rest) ← readBraced f (rest.length + 1) [] rest
    if ¬ digits.all isHexadecimal then .error .badHexadecimal
    else if digits.isEmpty then .error .badHexadecimal
    else return (← charOfHex digits, f.skip rest)
  | cs =>
    let (digits, rest) ← readHexDigits f width [] cs
    return (← charOfHex digits, rest)

def skipBlanks (cs : List Char) : List Char :=
  cs.dropWhile Text.isBlank

def readCountDigits (f : Flags) : Nat → List Char → List Char → List Char × List Char
  | 0, acc, cs => (acc.reverse, cs)
  | _ + 1, acc, [] => (acc.reverse, [])
  | fuel + 1, acc, c :: rest =>
    if c.isDigit then readCountDigits f fuel (c :: acc) (f.skip rest) else (acc.reverse, c :: rest)

def readCount (f : Flags) (cs : List Char) : Except Fault (Option Nat × List Char) :=
  let cs := skipBlanks cs
  let (digits, rest) := readCountDigits f (cs.length + 1) [] cs
  let rest := if (rest.head?.any Text.isBlank) then f.skip (skipBlanks rest) else rest
  if digits.isEmpty then .ok (none, rest)
  else
    match Text.readDigits Text.maxWord32 0 digits with
    | .ok n => .ok (some n, rest)
    | .error _ => .error .badRepetition

def readBounds (f : Flags) (cs : List Char) :
    Except Fault ((Nat × Option Nat) × List Char) := do
  let cs := f.skip cs
  if cs.isEmpty then .error .unexpectedEnd
  let (least, rest) ← readCount f cs
  match least with
  | none => .error .badRepetition
  | some least =>
    match rest with
    | '\x7d' :: rest => return ((least, some least), rest)
    | ',' :: rest =>
      match f.skip rest with
      | '\x7d' :: rest => return ((least, none), rest)
      | rest =>
        let (most, rest) ← readCount f rest
        match most, rest with
        | some most, '\x7d' :: rest =>
          if least ≤ most then return ((least, some most), rest) else .error .badRepetition
        | _, _ => .error .badRepetition
    | _ => .error .badRepetition

def isMeta (c : Char) : Bool :=
  "\\.+*?()|[]\x7b\x7d^$#&-~".toList.contains c

def isEscapable (c : Char) : Bool :=
  isMeta c || (c.toNat < 128 && !c.isAlphanum && c != '<' && c != '>')

inductive Atom where
  /-- A character; the flag says that it was written as a byte of two digits. -/
  | char (c : Char) (asByte : Bool)
  | set (s : CharSet)
  | place (p : Place)

def readBoundaryName (f : Flags) :
    Nat → List Char → List Char → Except Fault (List Char × List Char)
  | 0, _, _ => .error .unexpectedEnd
  | _ + 1, _, [] => .error .badWordBoundary
  | fuel + 1, acc, c :: rest =>
    if c.isAlpha ∨ c = '-' then readBoundaryName f fuel (c :: acc) (f.skip rest)
    else if c = '\x7d' then .ok (acc.reverse, rest)
    else .error .badWordBoundary

/-- Reads a word boundary after its letter. Braces that hold no name belong to a repetition. -/
def readBoundary (f : Flags) (cs : List Char) : Except Fault (Place × List Char) :=
  match cs with
  | '\x7b' :: inner =>
    match f.skip inner with
    | [] => .error .unexpectedEnd
    | c :: rest =>
      if c.isAlpha ∨ c = '-' then do
        let (name, rest) ← readBoundaryName f (rest.length + 2) [] (c :: rest)
        match String.ofList name with
        | "start" => return (.wordStart f.unicode, rest)
        | "end" => return (.wordEnd f.unicode, rest)
        | "start-half" => return (.wordStartHalf f.unicode, rest)
        | "end-half" => return (.wordEndHalf f.unicode, rest)
        | _ => .error .badWordBoundary
      else .ok (.wordBoundary f.unicode, cs)
  | _ => .ok (.wordBoundary f.unicode, cs)

def propertySet (f : Flags) (negated : Bool) (found : Option CharSet) : Except Fault CharSet :=
  if ¬ f.unicode then .error .unknownProperty
  else
    match found with
    | none => .error .unknownProperty
    | some s => .ok ((if f.ignoreCase then CharSet.anyCase s else s).negate negated)

def readProperty (f : Flags) (negated : Bool) (cs : List Char) :
    Except Fault (CharSet × List Char) := do
  match f.skip cs with
  | [] => .error .unexpectedEnd
  | '\x7b' :: rest =>
    let (name, rest) ← readBraced f (rest.length + 1) [] rest
    let found ←
      match Text.splitFirst ['!', '='] name with
      | some (property, value) =>
        propertySet f (!negated) (propertyValue? (plainName property) (plainName value))
      | none =>
        match Text.splitFirst [':'] name with
        | some (property, value) =>
          propertySet f negated (propertyValue? (plainName property) (plainName value))
        | none =>
          match Text.splitFirst ['='] name with
          | some (property, value) =>
            propertySet f negated (propertyValue? (plainName property) (plainName value))
          | none => propertySet f negated (property? (plainName name))
    return (found, rest)
  | c :: rest =>
    if c = '\\' then .error .unknownProperty
    else return (← propertySet f negated (property? (plainName [c])), f.skip rest)

/-- The set that a one-letter class names. Without Unicode its complement holds bytes that are
no text. -/
def letterSet (f : Flags) (k : LetterClass) (negated : Bool) : Except Fault CharSet :=
  if ¬ f.unicode ∧ negated then .error .notText
  else .ok ((CharSet.ranges (k.members f.unicode)).negate negated)

def readEscape (f : Flags) (cs : List Char) : Except Fault (Atom × List Char) := do
  match cs with
  | [] => .error .unexpectedEnd
  | c :: rest =>
    if c.isDigit then .error .backreference
    else
      match c with
      | 'x' =>
        let braced := (f.skip rest).head? = some '\x7b'
        let (c, rest) ← readHexEscape f 2 rest
        return (.char c (!braced), rest)
      | 'u' =>
        let (c, rest) ← readHexEscape f 4 rest
        return (.char c false, rest)
      | 'U' =>
        let (c, rest) ← readHexEscape f 8 rest
        return (.char c false, rest)
      | 'p' =>
        let (s, rest) ← readProperty f false rest
        return (.set s, rest)
      | 'P' =>
        let (s, rest) ← readProperty f true rest
        return (.set s, rest)
      | 'd' => return (.set (← letterSet f .digit false), rest)
      | 'D' => return (.set (← letterSet f .digit true), rest)
      | 's' => return (.set (← letterSet f .space false), rest)
      | 'S' => return (.set (← letterSet f .space true), rest)
      | 'w' => return (.set (← letterSet f .word false), rest)
      | 'W' => return (.set (← letterSet f .word true), rest)
      | 'a' => return (.char '\x07' false, rest)
      | 'f' => return (.char '\x0c' false, rest)
      | 't' => return (.char '\t' false, rest)
      | 'n' => return (.char '\n' false, rest)
      | 'r' => return (.char '\r' false, rest)
      | 'v' => return (.char '\x0b' false, rest)
      | 'A' => return (.place .textStart, rest)
      | 'z' => return (.place .textEnd, rest)
      | 'b' =>
        let (p, rest) ← readBoundary f rest
        return (.place p, rest)
      | 'B' => return (.place (.notWordBoundary f.unicode), rest)
      | '<' => return (.place (.wordStart f.unicode), rest)
      | '>' => return (.place (.wordEnd f.unicode), rest)
      | c => if isEscapable c then return (.char c false, rest) else .error .unknownEscape

end MountProbe.Pattern
