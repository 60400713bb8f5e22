import MountProbe.Mount.Label
import MountProbe.Text.Numeral
import MountProbe.Text.Quoted
import MountProbe.Text.Slice

/-! The mount table as the kernel writes it, one mount a line:

    36 35 98:0 /root /mount/point rw,noatime master:1 - ext3 /dev/root rw

A line is cut at its first " - ", because the number of tags before it varies. Lines of another
shape are skipped with a warning; a line of the right shape whose device number is none means
that the table cannot be trusted, and fails the reading. -/
namespace MountProbe.Mount.Table

def separator : List Char := [' ', '-', ' ']

def isOctal (b : UInt8) : Bool :=
  0x30 ≤ b && b ≤ 0x37

def isEscape (a b c : UInt8) : Bool :=
  isOctal a && isOctal b && isOctal c && a ≤ 0x33

def escapedByte (a b c : UInt8) : UInt8 :=
  (a - 0x30) * 64 + (b - 0x30) * 8 + (c - 0x30)

/-- The bytes of a field: a backslash and three octal digits stand for one byte, and every other
byte stands for itself. -/
def unescape : Bytes → Bytes
  | 0x5C :: a :: b :: c :: rest =>
    if isEscape a b c then escapedByte a b c :: unescape rest
    else 0x5C :: unescape (a :: b :: c :: rest)
  | x :: rest => x :: unescape rest
  | [] => []

def fieldBytes (field : List Char) : Bytes :=
  unescape (Text.utf8 field)

/-- The two sides of a line's first separator. It is looked for in the bytes of the line, and the
line is cut at the places that are found there. -/
def sides (line : List Char) : Option (List Char × List Char) := do
  let text := Text.utf8 line
  let mark := Text.utf8 separator
  let place ← Text.firstPlace mark text
  let before ← Text.slice? text 0 place
  let after ← Text.slice? text (place + mark.length) text.length
  return (before, after)

def halves (line : List Char) : Option (List (List Char) × List (List Char)) :=
  (sides line).map fun (before, after) => (Text.words before, Text.words after)

/-- The two numbers of a device, each of 32 bits, with a colon between them. -/
def readDeviceNumber (field : List Char) : Option (Nat × Nat) := do
  let (major, minor) ← Text.splitFirst [':'] field
  let major ← (Text.readNumeral Text.maxWord32 (String.ofList major)).toOption
  let minor ← (Text.readNumeral Text.maxWord32 (String.ofList minor)).toOption
  return (major, minor)

inductive Line where
  | blank
  | malformed
  | badNumber (field : String)
  | mount (label : Label)
deriving DecidableEq, Repr

def readLine (line : List Char) : Line :=
  if Text.isBlankText line then .blank
  else
    match halves line with
    | some (_ :: _ :: number :: _ :: mountPoint :: options :: _, fsType :: device :: more) =>
      match readDeviceNumber number with
      | none => .badNumber (String.ofList number)
      | some (major, minor) =>
        .mount
          { device := (fieldBytes device).lossy
            mountPoint := ⟨fieldBytes mountPoint⟩
            fsType := String.ofList fsType
            mountOptions := String.ofList options
            superOptions := String.ofList (more.headD [])
            major := toString major
            minor := toString minor }
    | _ => .malformed

/-- What came of reading a table: the lines that were skipped, with their numbers, and the
mounts or the first bad device number. -/
structure Reading where
  skipped : List (Nat × String)
  mounts : Except Failure (List Label)

def badNumberFailure (number : Nat) (field : String) : Failure :=
  .mountParse ("line " ++ toString number ++ ": invalid major:minor " ++ Text.quote field)

def readLines (number : Nat) : List (List Char) → Reading
  | [] => ⟨[], .ok []⟩
  | line :: rest =>
    match readLine line with
    | .blank => readLines (number + 1) rest
    | .malformed =>
      let later := readLines (number + 1) rest
      ⟨(number, String.ofList line) :: later.skipped, later.mounts⟩
    | .badNumber field => ⟨[], .error (badNumberFailure number field)⟩
    | .mount label =>
      let later := readLines (number + 1) rest
      ⟨later.skipped, later.mounts.map (label :: ·)⟩

/-- Reads a table. Lines count from one, blank ones too. -/
def read (text : List Char) : Reading :=
  readLines 1 (Text.lines text)

def warning (skipped : Nat × String) : String :=
  "[MG-MOUNTS] warning: skipping malformed mountinfo line " ++ toString skipped.1 ++ ": " ++
    skipped.2 ++ "\n"

def Reading.warnings (r : Reading) : String :=
  String.join (r.skipped.map warning)

end MountProbe.Mount.Table
