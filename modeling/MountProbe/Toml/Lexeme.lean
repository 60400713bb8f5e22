import MountProbe.Binary64.Decimal
import MountProbe.Toml.Value

namespace MountProbe.Toml

abbrev Reader (α : Type) := List Char → Except Fault (α × List Char)

def isSpace (c : Char) : Bool :=
  c == ' ' || c == '\t'

def skipSpaces (cs : List Char) : List Char :=
  cs.dropWhile isSpace

def newline? : List Char → Option (List Char)
  | '\n' :: rest => some rest
  | '\r' :: '\n' :: rest => some rest
  | _ => none

/-- A character that may stand in a comment or, quotes apart, in a string on one line. -/
def isPlain (c : Char) : Bool :=
  c == '\t' || (0x20 ≤ c.toNat && c.toNat != 0x7F)

def skipComment : List Char → List Char
  | '#' :: rest => rest.dropWhile isPlain
  | cs => cs

def readLineEnd (cs : List Char) : Except Fault (List Char) :=
  match skipComment (skipSpaces cs) with
  | [] => .ok []
  | rest =>
    match newline? rest with
    | some rest => .ok rest
    | none => .error .trailing

def skipLines : Nat → List Char → List Char
  | 0, cs => cs
  | fuel + 1, cs =>
    let rest := skipSpaces cs
    match newline? (skipComment rest) with
    | some more => skipLines fuel more
    | none => rest

def isBare (c : Char) : Bool :=
  c.isAlphanum || c == '-' || c == '_'

def isHexadecimal (c : Char) : Bool :=
  c.isDigit || ('a' ≤ c && c ≤ 'f') || ('A' ≤ c && c ≤ 'F')

def hexValue (c : Char) : Nat :=
  if c.isDigit then c.toNat - 48 else if 'a' ≤ c then c.toNat - 87 else c.toNat - 55

def readCharNumber (width : Nat) : Reader Char := fun cs =>
  let digits := cs.take width
  let n := digits.foldl (fun n c => n * 16 + hexValue c) 0
  if digits.length = width ∧ digits.all isHexadecimal ∧ n ≤ 0x10FFFF ∧
      ¬ (0xD800 ≤ n ∧ n ≤ 0xDFFF) then
    .ok (Char.ofNat n, cs.drop width)
  else .error .badEscape

def readEscape : Reader Char
  | 'b' :: rest => .ok ('\x08', rest)
  | 't' :: rest => .ok ('\t', rest)
  | 'n' :: rest => .ok ('\n', rest)
  | 'f' :: rest => .ok ('\x0c', rest)
  | 'r' :: rest => .ok ('\r', rest)
  | '"' :: rest => .ok ('"', rest)
  | '\\' :: rest => .ok ('\\', rest)
  | 'u' :: rest => readCharNumber 4 rest
  | 'U' :: rest => readCharNumber 8 rest
  | _ => .error .badEscape

def readBasic : Nat → List Char → Reader String
  | 0, _, _ => .error .badText
  | _ + 1, _, [] => .error .badText
  | fuel + 1, acc, c :: rest =>
    if c = '"' then .ok (String.ofList acc.reverse, rest)
    else if c = '\\' then do
      let (d, rest) ← readEscape rest
      readBasic fuel (d :: acc) rest
    else if isPlain c then readBasic fuel (c :: acc) rest
    else .error .badText

def readLiteral (acc : List Char) : Reader String
  | [] => .error .badText
  | c :: rest =>
    if c = '\'' then .ok (String.ofList acc.reverse, rest)
    else if isPlain c then readLiteral (c :: acc) rest
    else .error .badText

/-- Skips what a backslash at the end of a line removes: the end of the line and all blanks and
ends of lines that follow. -/
def skipFolded : Nat → List Char → List Char
  | 0, cs => cs
  | fuel + 1, cs =>
    let rest := skipSpaces cs
    match newline? rest with
    | some more => skipFolded fuel more
    | none => rest

/-- The quotes at the end of a string over several lines: up to two belong to the string and
three close it. -/
def closeQuotes (quote : Char) (cs : List Char) : Option (Nat × List Char) :=
  let n := (cs.takeWhile (· == quote)).length
  if n < 3 then none else let own := min (n - 3) 2; some (own, cs.drop (own + 3))

def readLongBasic : Nat → List Char → Reader String
  | 0, _, _ => .error .badText
  | _ + 1, _, [] => .error .badText
  | fuel + 1, acc, c :: rest =>
    match closeQuotes '"' (c :: rest) with
    | some (own, rest) =>
      .ok (String.ofList (acc.reverse ++ List.replicate own '"'), rest)
    | none =>
      match newline? (c :: rest) with
      | some rest => readLongBasic fuel ('\n' :: acc) rest
      | none =>
        if c = '\\' then
          if (newline? (skipSpaces rest)).isSome then
            readLongBasic fuel acc (skipFolded (rest.length + 1) rest)
          else do
            let (d, rest) ← readEscape rest
            readLongBasic fuel (d :: acc) rest
        else if isPlain c then readLongBasic fuel (c :: acc) rest
        else .error .badText

def readLongLiteral : Nat → List Char → Reader String
  | 0, _, _ => .error .badText
  | _ + 1, _, [] => .error .badText
  | fuel + 1, acc, c :: rest =>
    match closeQuotes '\'' (c :: rest) with
    | some (own, rest) =>
      .ok (String.ofList (acc.reverse ++ List.replicate own '\''), rest)
    | none =>
      match newline? (c :: rest) with
      | some rest => readLongLiteral fuel ('\n' :: acc) rest
      | none => if isPlain c then readLongLiteral fuel (c :: acc) rest else .error .badText

/-- Without the end of a line directly after the opening quotes. -/
def skipFirstNewline (cs : List Char) : List Char :=
  (newline? cs).getD cs

def readText : Reader String
  | '"' :: '"' :: '"' :: rest => readLongBasic (rest.length + 1) [] (skipFirstNewline rest)
  | '\'' :: '\'' :: '\'' :: rest => readLongLiteral (rest.length + 1) [] (skipFirstNewline rest)
  | '"' :: rest => readBasic (rest.length + 1) [] rest
  | '\'' :: rest => readLiteral [] rest
  | _ => .error .badText

def readSimpleKey : Reader String
  | '"' :: rest => readBasic (rest.length + 1) [] rest
  | '\'' :: rest => readLiteral [] rest
  | cs =>
    let key := cs.takeWhile isBare
    if key.isEmpty then .error .badKey else .ok (String.ofList key, cs.dropWhile isBare)

def depthLimit : Nat := 80

def readKeys : Nat → List String → Reader (List String)
  | 0, _, _ => .error .badKey
  | fuel + 1, acc, cs => do
    let (k, rest) ← readSimpleKey (skipSpaces cs)
    match skipSpaces rest with
    | '.' :: rest => readKeys fuel (k :: acc) rest
    | rest =>
      if depthLimit ≤ acc.length + 1 then .error .tooDeep else return ((k :: acc).reverse, rest)

def readKey : Reader (List String) := fun cs =>
  readKeys (cs.length + 1) [] cs

def readGrouped (isDigit : Char → Bool) : List Char → List Char × List Char
  | [] => ([], [])
  | c :: rest =>
    if isDigit c then
      let (ds, rest) := readGrouped isDigit rest
      (c :: ds, rest)
    else
      match c, rest with
      | '_', d :: more =>
        if isDigit d then
          let (ds, rest) := readGrouped isDigit more
          (d :: ds, rest)
        else ([], c :: rest)
      | _, _ => ([], c :: rest)

def readDigits (isDigit : Char → Bool) (cs : List Char) : Option (List Char × List Char) :=
  match cs with
  | c :: _ => if isDigit c then some (readGrouped isDigit cs) else none
  | [] => none

/-- Reads the digits of a decimal number, which has no leading zeros. -/
def readDecimal : List Char → Option (List Char × List Char)
  | '0' :: rest => some (['0'], rest)
  | cs => readDigits Char.isDigit cs

def maxWhole : Int := 9223372036854775807

def wholeOf (negative : Bool) (n : Nat) : Except Fault Value :=
  let n : Int := if negative then -(n : Int) else n
  if -maxWhole - 1 ≤ n ∧ n ≤ maxWhole then .ok (.whole n) else .error .badNumber

def readBased (base : Nat) (isDigit : Char → Bool) : Reader Value := fun cs =>
  match readDigits isDigit cs with
  | some (ds, rest) =>
    (wholeOf false (ds.foldl (fun n c => n * base + hexValue c) 0)).map (·, rest)
  | none => .error .badNumber

def readExponent (cs : List Char) : Except Fault (List Char × List Char) :=
  let (sign, cs) :=
    match cs with
    | '-' :: rest => (['-'], rest)
    | '+' :: rest => ([], rest)
    | cs => ([], cs)
  match readDigits Char.isDigit cs with
  | some (ds, rest) => .ok ('e' :: sign ++ ds, rest)
  | none => .error .badNumber

def isExponentMark (c : Char) : Bool :=
  c == 'e' || c == 'E'

def realOf (numeral : List Char) (rest : List Char) : Except Fault (Value × List Char) :=
  if Binary64.read? (String.ofList numeral) = some (.infinite false) then .error .badNumber
  else .ok (.real, rest)

def readUnsigned (negative : Bool) : Reader Value := fun cs => do
  let sign := if negative then ['-'] else []
  match readDecimal cs with
  | none => .error .badNumber
  | some (ds, rest) =>
    match rest with
    | '.' :: more =>
      match readDigits Char.isDigit more with
      | none => .error .badNumber
      | some (places, rest) =>
        let numeral := sign ++ ds ++ '.' :: places
        match rest with
        | e :: more =>
          if isExponentMark e then
            let (exponent, rest) ← readExponent more
            realOf (numeral ++ exponent) rest
          else realOf numeral rest
        | [] => realOf numeral rest
    | e :: more =>
      if isExponentMark e then
        let (exponent, rest) ← readExponent more
        realOf (sign ++ ds ++ exponent) rest
      else return (← wholeOf negative (Binary64.digitsValue ds), rest)
    | [] => return (← wholeOf negative (Binary64.digitsValue ds), rest)

def readNumber : Reader Value
  | '+' :: 'i' :: 'n' :: 'f' :: rest | '-' :: 'i' :: 'n' :: 'f' :: rest => .ok (.real, rest)
  | '+' :: 'n' :: 'a' :: 'n' :: rest | '-' :: 'n' :: 'a' :: 'n' :: rest => .ok (.real, rest)
  | '+' :: rest => readUnsigned false rest
  | '-' :: rest => readUnsigned true rest
  | '0' :: 'x' :: rest => readBased 16 isHexadecimal rest
  | '0' :: 'o' :: rest => readBased 8 (fun c => '0' ≤ c && c ≤ '7') rest
  | '0' :: 'b' :: rest => readBased 2 (fun c => c == '0' || c == '1') rest
  | cs => readUnsigned false cs

def readFixed (width : Nat) (cs : List Char) : Option (Nat × List Char) :=
  let ds := cs.take width
  if ds.length = width ∧ ds.all Char.isDigit then
    some (Binary64.digitsValue ds, cs.drop width)
  else none

def daysIn (year month : Nat) : Nat :=
  if month = 2 then
    if year % 4 = 0 ∧ (year % 100 ≠ 0 ∨ year % 400 = 0) then 29 else 28
  else if month = 4 ∨ month = 6 ∨ month = 9 ∨ month = 11 then 30
  else 31

def readPart (least most : Nat) (cs : List Char) : Except Fault (List Char × Nat) :=
  match readFixed 2 cs with
  | some (n, rest) => if least ≤ n ∧ n ≤ most then .ok (rest, n) else .error .badDate
  | none => .error .badDate

def readMark (mark : Char) : List Char → Except Fault (List Char)
  | c :: rest => if c = mark then .ok rest else .error .badDate
  | [] => .error .badDate

/-- Reads a time of day, if there is one: two digits and a colon start it. -/
def readTime (cs : List Char) : Except Fault (Option (List Char)) := do
  match readFixed 2 cs with
  | some (hour, ':' :: rest) =>
    if 23 < hour then .error .badDate
    let (rest, _) ← readPart 0 59 rest
    let rest ← readMark ':' rest
    let (rest, _) ← readPart 0 60 rest
    match rest with
    | '.' :: more =>
      if more.head?.any Char.isDigit then return some (more.dropWhile Char.isDigit)
      else return some rest
    | rest => return some rest
  | _ => return none

def readOffset (cs : List Char) : Except Fault (List Char) := do
  match cs with
  | 'Z' :: rest | 'z' :: rest => return rest
  | '+' :: rest | '-' :: rest =>
    let (rest, _) ← readPart 0 23 rest
    let rest ← readMark ':' rest
    let (rest, _) ← readPart 0 59 rest
    return rest
  | rest => return rest

def readDate (cs : List Char) : Except Fault (Option (List Char)) := do
  match readFixed 4 cs with
  | some (year, '-' :: rest) =>
    let (rest, month) ← readPart 1 12 rest
    let rest ← readMark '-' rest
    let (rest, day) ← readPart 1 31 rest
    if daysIn year month < day then .error .badDate
    match rest with
    | c :: more =>
      if c = 'T' ∨ c = 't' ∨ c = ' ' then
        match ← readTime more with
        | some rest => return some (← readOffset rest)
        | none => return some rest
      else return some rest
    | [] => return some []
  | _ => readTime cs

end MountProbe.Toml
