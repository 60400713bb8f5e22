import MountProbe.Toml.Lexeme

namespace MountProbe.Toml

inductive Route where
  | heading
  | line
  | braces
deriving DecidableEq

def Route.makes : Route → TableKind
  | heading => .implied
  | line => .dotted
  | braces => .inlineDotted

def Route.enters : Route → TableKind → Except Fault Unit
  | heading, .inline | heading, .inlineDotted => .error .notATable
  | heading, _ => .ok ()
  | line, .inline | line, .inlineDotted => .error .notATable
  | line, .headed => .error .duplicateKey
  | line, _ => .ok ()
  | braces, .inlineDotted => .ok ()
  | braces, _ => .error .duplicateKey

/-- Changes the table that a path leads to. Of tables under one heading the latest is meant. -/
def within (route : Route) (change : TableKind → Entries → Except Fault Entries) :
    List String → TableKind → Entries → Except Fault Entries
  | [], kind, es => change kind es
  | k :: ks, _, es => do
    match es.get? k with
    | none => return es.put k (.table route.makes (← within route change ks route.makes []))
    | some (.table kind inner) =>
      route.enters kind
      return es.put k (.table kind (← within route change ks kind inner))
    | some (.tables (.table kind inner :: earlier)) =>
      return es.put k (.tables (.table kind (← within route change ks kind inner) :: earlier))
    | some _ => .error .notATable

def splitLast : List String → Option (List String × String)
  | [] => none
  | [k] => some ([], k)
  | k :: ks => (splitLast ks).map fun (before, last) => (k :: before, last)

/-- Sets a dotted key from a table. The last table on the way must be one that dotted keys made,
unless there is none on the way. -/
def setKey (route : Route) (key : List String) (v : Value) (kind : TableKind) (es : Entries) :
    Except Fault Entries :=
  match splitLast key with
  | none => .error .badKey
  | some (before, last) =>
    within route
      (fun kind es =>
        let made := kind = .dotted ∨ kind = .inlineDotted
        if (decide made) = before.isEmpty then .error .duplicateKey else es.add last v)
      before kind es

def openTable (path : List String) (root : Entries) : Except Fault Entries :=
  match splitLast path with
  | none => .error .badKey
  | some (before, last) =>
    within .heading
      (fun _ es =>
        match es.get? last with
        | none => .ok (es.put last (.table .headed []))
        | some (.table .implied inner) => .ok (es.put last (.table .headed inner))
        | some _ => .error .duplicateKey)
      before .headed root

def openFurther (path : List String) (root : Entries) : Except Fault Entries :=
  match splitLast path with
  | none => .error .badKey
  | some (before, last) =>
    within .heading
      (fun _ es =>
        match es.get? last with
        | none => .ok (es.put last (.tables [.table .headed []]))
        | some (.tables earlier) => .ok (es.put last (.tables (.table .headed [] :: earlier)))
        | some _ => .error .duplicateKey)
      before .headed root

def addLine (heading key : List String) (v : Value) (root : Entries) : Except Fault Entries :=
  within .heading (setKey .line key v) heading .headed root

def readWord (word : List Char) (v : Value) (cs : List Char) : Except Fault (Value × List Char) :=
  if word.isPrefixOf cs then .ok (v, cs.drop word.length) else .error .badValue

def readNumeric : Reader Value := fun cs => do
  match ← readDate cs with
  | some rest => return (.date, rest)
  | none => readNumber cs

mutual

def readValue (depth : Nat) : Nat → Reader Value
  | 0, _ => .error .unclosed
  | fuel + 1, cs =>
    match cs with
    | [] => .error .unexpectedEnd
    | '"' :: _ | '\'' :: _ => (readText cs).map fun (s, rest) => (.text s, rest)
    | '[' :: rest =>
      if depthLimit ≤ depth + 1 then .error .tooDeep else readItems (depth + 1) fuel [] rest
    | '\x7b' :: rest =>
      if depthLimit ≤ depth + 1 then .error .tooDeep
      else
        match skipSpaces rest with
        | '\x7d' :: rest => .ok (.table .inline [], rest)
        | rest => readPairs (depth + 1) fuel [] rest
    | 't' :: _ => readWord ['t', 'r', 'u', 'e'] (.truth true) cs
    | 'f' :: _ => readWord ['f', 'a', 'l', 's', 'e'] (.truth false) cs
    | 'i' :: _ => readWord ['i', 'n', 'f'] .real cs
    | 'n' :: _ => readWord ['n', 'a', 'n'] .real cs
    | c :: _ => if c = '+' ∨ c = '-' ∨ c.isDigit then readNumeric cs else .error .badValue

def readItems (depth : Nat) : Nat → List Value → Reader Value
  | 0, _, _ => .error .unclosed
  | fuel + 1, acc, cs =>
    match skipLines (cs.length + 1) cs with
    | ']' :: rest => .ok (.list acc.reverse, rest)
    | cs => do
      let (v, rest) ← readValue depth fuel cs
      match skipLines (rest.length + 1) rest with
      | ',' :: rest => readItems depth fuel (v :: acc) rest
      | ']' :: rest => return (.list (v :: acc).reverse, rest)
      | _ => .error .unclosed

def readPairs (depth : Nat) : Nat → Entries → Reader Value
  | 0, _, _ => .error .unclosed
  | fuel + 1, es, cs => do
    let (key, rest) ← readKey cs
    match rest with
    | '=' :: rest =>
      let (v, rest) ← readValue depth fuel (skipSpaces rest)
      let es ← setKey .braces key v .inline es
      match skipSpaces rest with
      | ',' :: rest => readPairs depth fuel es rest
      | '\x7d' :: rest => return (.table .inline es, rest)
      | _ => .error .unclosed
    | _ => .error .badKey

end

def readLines : Nat → List String → Entries → List Char → Except Fault Entries
  | 0, _, _, _ => .error .unexpectedEnd
  | fuel + 1, heading, root, cs => do
    match skipSpaces cs with
    | [] => return root
    | '[' :: '[' :: rest =>
      let (path, rest) ← readKey rest
      match rest with
      | ']' :: ']' :: rest =>
        readLines fuel path (← openFurther path root) (← readLineEnd rest)
      | _ => .error .unclosed
    | '[' :: rest =>
      let (path, rest) ← readKey rest
      match rest with
      | ']' :: rest => readLines fuel path (← openTable path root) (← readLineEnd rest)
      | _ => .error .unclosed
    | c :: rest =>
      if c = '#' ∨ c = '\n' ∨ c = '\r' then
        readLines fuel heading root (← readLineEnd (c :: rest))
      else
        let (key, rest) ← readKey (c :: rest)
        match rest with
        | '=' :: rest =>
          let (v, rest) ← readValue 0 (rest.length + 1) (skipSpaces rest)
          readLines fuel heading (← addLine heading key v root) (← readLineEnd rest)
        | _ => .error .badKey

/-- Reads a document. A byte order mark at its start is skipped. -/
def read (text : List Char) : Except Fault Entries :=
  let cs := if text.head? = some (Char.ofNat 0xFEFF) then text.drop 1 else text
  readLines (cs.length + 1) [] [] cs

end MountProbe.Toml
