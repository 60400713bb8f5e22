import MountProbe.Json
import MountProbe.Text.Numeral
import MountProbe.Toml.Lexeme

/-! Reading structured output. What is read stays as it is written: numbers are numerals, and texts
are characters and the numbers in their escapes. What a text spells or how large a number is counts
only where the value is used. -/
namespace MountProbe.Json

abbrev Reader (α : Type) := List Char → Option (α × List Char)

/-- What stands between quotes: a character, as it is or by a short name, or a number of 16 bits. -/
inductive Glyph where
  | plain (c : Char)
  | code (n : Nat)
deriving DecidableEq, Inhabited, Repr

inductive Written where
  | null
  | bool (b : Bool)
  | number (numeral : List Char)
  | text (glyphs : List Glyph)
  | list (items : List Written)
  | object (fields : List (List Glyph × Written))
deriving Inhabited, Repr

def isSpace (c : Char) : Bool :=
  c == ' ' || c == '\n' || c == '\r' || c == '\t'

def skipSpaces (cs : List Char) : List Char :=
  cs.dropWhile isSpace

def hexNumber? (ds : List Char) : Option Nat :=
  if ds.all Toml.isHexadecimal then some (ds.foldl (fun n c => n * 16 + Toml.hexValue c) 0)
  else none

/-- The character with a short name. -/
def named? : Char → Option Char
  | '"' => some '"'
  | '\\' => some '\\'
  | '/' => some '/'
  | 'b' => some '\x08'
  | 'f' => some '\x0c'
  | 'n' => some '\n'
  | 'r' => some '\r'
  | 't' => some '\t'
  | _ => none

def Reader.next {α : Type} (a : α) (others : Option (List α × List Char)) :
    Option (List α × List Char) :=
  others.map fun (as, rest) => (a :: as, rest)

/-- Reads up to the closing quote. Control characters have to be escaped. -/
def readGlyphs : Reader (List Glyph)
  | '"' :: rest => some ([], rest)
  | '\\' :: 'u' :: a :: b :: c :: d :: rest =>
    match hexNumber? [a, b, c, d] with
    | none => none
    | some n => Reader.next (.code n) (readGlyphs rest)
  | '\\' :: name :: rest =>
    match named? name with
    | none => none
    | some c => Reader.next (.plain c) (readGlyphs rest)
  | c :: rest => if c.toNat < 0x20 then none else Reader.next (.plain c) (readGlyphs rest)
  | [] => none

def isHigh (n : Nat) : Bool :=
  0xD800 ≤ n && n ≤ 0xDBFF

def isLow (n : Nat) : Bool :=
  0xDC00 ≤ n && n ≤ 0xDFFF

/-- The characters that a text spells. Two numbers may stand for one character, but neither of them
alone for any. -/
def spelled? : List Glyph → Option (List Char)
  | [] => some []
  | .plain c :: rest => (spelled? rest).map (c :: ·)
  | .code n :: rest =>
    if isHigh n then
      match rest with
      | .code m :: rest =>
        if isLow m then
          (spelled? rest).map
            (Char.ofNat (0x10000 + (n - 0xD800) * 0x400 + (m - 0xDC00)) :: ·)
        else none
      | _ => none
    else if isLow n then none
    else (spelled? rest).map (Char.ofNat n :: ·)

def splitDigits (cs : List Char) : List Char × List Char :=
  (cs.takeWhile Char.isDigit, cs.dropWhile Char.isDigit)

def splitSign (signs : List Char) : List Char → List Char × List Char
  | [] => ([], [])
  | c :: rest => if c ∈ signs then ([c], rest) else ([], c :: rest)

/-- The digits before the point; a number does not begin with zeros that do not count. -/
def splitWhole : List Char → List Char × List Char
  | '0' :: rest => (['0'], rest)
  | cs => splitDigits cs

def readPlaces : Reader (List Char)
  | '.' :: rest =>
    let (digits, rest) := splitDigits rest
    if digits.isEmpty then none else some ('.' :: digits, rest)
  | cs => some ([], cs)

def readPower : Reader (List Char)
  | [] => some ([], [])
  | mark :: rest =>
    if mark = 'e' ∨ mark = 'E' then
      let (sign, rest) := splitSign ['+', '-'] rest
      let (digits, rest) := splitDigits rest
      if digits.isEmpty then none else some (mark :: sign ++ digits, rest)
    else some ([], mark :: rest)

def readNumeral (cs : List Char) : Option (List Char × List Char) := do
  let (sign, cs) := splitSign ['-'] cs
  let (digits, cs) := splitWhole cs
  if digits.isEmpty then none
  let (places, cs) ← readPlaces cs
  let (power, cs) ← readPower cs
  return (sign ++ digits ++ places ++ power, cs)

def readWord : Reader Written
  | 'n' :: 'u' :: 'l' :: 'l' :: rest => some (.null, rest)
  | 't' :: 'r' :: 'u' :: 'e' :: rest => some (.bool true, rest)
  | 'f' :: 'a' :: 'l' :: 's' :: 'e' :: rest => some (.bool false, rest)
  | cs => (readNumeral cs).map fun (numeral, rest) => (.number numeral, rest)

/-- Reads items with commas between them up to the closing mark. -/
def readItems {α : Type} (item : Reader α) (close : Char) (cs : List Char) :
    Option (List α × List Char) :=
  match item (skipSpaces cs) with
  | none => none
  | some (a, rest) =>
    match skipSpaces rest with
    | [] => none
    | c :: more =>
      if c = close then some ([a], more)
      else if c = ',' ∧ more.length < cs.length then
        Reader.next a (readItems item close more)
      else none
termination_by cs.length

def readMany {α : Type} (item : Reader α) (close : Char) (cs : List Char) :
    Option (List α × List Char) :=
  match skipSpaces cs with
  | [] => none
  | c :: rest => if c = close then some ([], rest) else readItems item close (c :: rest)

def readField {α : Type} (item : Reader α) : Reader (List Glyph × α)
  | '"' :: rest =>
    match readGlyphs rest with
    | none => none
    | some (name, rest) =>
      match skipSpaces rest with
      | ':' :: rest => (item (skipSpaces rest)).map fun (a, rest) => ((name, a), rest)
      | _ => none
  | _ => none

/-- Reads a value that begins here and is nested at most so deep. -/
def readValue : Nat → Reader Written
  | 0, _ => none
  | _ + 1, '"' :: rest => (readGlyphs rest).map fun (gs, rest) => (.text gs, rest)
  | depth + 1, '[' :: rest =>
    (readMany (readValue depth) ']' rest).map fun (items, rest) => (.list items, rest)
  | depth + 1, '\x7b' :: rest =>
    (readMany (readField (readValue depth)) '\x7d' rest).map fun (fields, rest) =>
      (.object fields, rest)
  | _ + 1, cs => readWord cs

/-- Reads a text that is one value. No value is nested deeper than its text is long. -/
def read? (cs : List Char) : Option Written := do
  let (w, rest) ← readValue cs.length (skipSpaces cs)
  if (skipSpaces rest).isEmpty then some w else none

namespace Written

def text? : Written → Option String
  | text glyphs => (spelled? glyphs).map String.ofList
  | _ => none

def bool? : Written → Option Bool
  | bool b => some b
  | _ => none

/-- A whole number without a sign, up to a limit. -/
def whole? (limit : Nat) : Written → Option Nat
  | number numeral => (Text.readDigits limit 0 numeral).toOption
  | _ => none

end Written

end MountProbe.Json
