namespace MountProbe

/-- A byte string: file contents, file names, arguments. Nothing says that it is text. -/
abbrev Bytes := List UInt8

namespace Text

def utf8 (cs : List Char) : Bytes :=
  cs.flatMap String.utf8EncodeChar

def isTail (b : UInt8) : Bool :=
  0x80 ≤ b && b ≤ 0xBF

/-- What may follow a first byte: the range of the second byte and the number of further tail
bytes; nothing may follow a byte that starts no character of several bytes. -/
def followers (b : UInt8) : Option (UInt8 × UInt8 × Nat) :=
  if 0xC2 ≤ b && b ≤ 0xDF then some (0x80, 0xBF, 0)
  else if b == 0xE0 then some (0xA0, 0xBF, 1)
  else if b == 0xED then some (0x80, 0x9F, 1)
  else if 0xE1 ≤ b && b ≤ 0xEF then some (0x80, 0xBF, 1)
  else if b == 0xF0 then some (0x90, 0xBF, 2)
  else if 0xF1 ≤ b && b ≤ 0xF3 then some (0x80, 0xBF, 2)
  else if b == 0xF4 then some (0x80, 0x8F, 2)
  else none

def leadBits (b : UInt8) : Nat :=
  if b < 0xE0 then b.toNat - 0xC0 else if b < 0xF0 then b.toNat - 0xE0 else b.toNat - 0xF0

/-- Reads tail bytes onto a payload: the payload, if all were there, and how many were. -/
def readTail : Nat → Nat → Bytes → Option Nat × Nat
  | 0, acc, _ => (some acc, 0)
  | _ + 1, _, [] => (none, 0)
  | n + 1, acc, b :: rest =>
    if isTail b then
      let (r, used) := readTail n (acc * 64 + (b.toNat - 0x80)) rest
      (r, used + 1)
    else (none, 0)

/-- Reads one character after its first byte: the character, or none for an ill-formed stretch,
and how many bytes after the first belong to it. -/
def readChar (b : UInt8) (rest : Bytes) : Option Char × Nat :=
  if b < 0x80 then (some (Char.ofNat b.toNat), 0)
  else
    match followers b, rest with
    | some (lo, hi, more), second :: rest' =>
      if lo ≤ second && second ≤ hi then
        let (r, used) := readTail more (leadBits b * 64 + (second.toNat - 0x80)) rest'
        (r.map Char.ofNat, used + 1)
      else (none, 0)
    | _, _ => (none, 0)

/-- The characters that the bytes spell, with none for each ill-formed stretch: the longest
prefix of a character that is there, or a single byte. -/
def decode : Bytes → List (Option Char)
  | [] => []
  | b :: rest => (readChar b rest).1 :: decode (rest.drop (readChar b rest).2)
termination_by bs => bs.length
decreasing_by simp only [List.length_cons, List.length_drop]; omega

def decode? (bs : Bytes) : Option (List Char) :=
  (decode bs).mapM id

/-- The text that the bytes spell, with U+FFFD for each ill-formed stretch. -/
def decodeLossy (bs : Bytes) : List Char :=
  (decode bs).map fun c => c.getD (Char.ofNat 0xFFFD)

end Text

namespace Bytes

def lossy (bs : Bytes) : String :=
  String.ofList (Text.decodeLossy bs)

def text? (bs : Bytes) : Option String :=
  (Text.decode? bs).map String.ofList

def ofString (s : String) : Bytes :=
  s.toByteArray.data.toList

def compareBytes : Bytes → Bytes → Ordering
  | [], [] => .eq
  | [], _ :: _ => .lt
  | _ :: _, [] => .gt
  | a :: as, b :: bs => (compare a b).then (compareBytes as bs)

end Bytes

end MountProbe
