/-! Settings documents as trees. A table remembers how it came to be, because that decides whether
later lines may add to it. -/
namespace MountProbe.Toml

inductive Fault where
  | unexpectedEnd
  | badKey
  | badValue
  | badText
  | badEscape
  | badNumber
  | badDate
  | trailing
  | controlCharacter
  | unclosed
  | tooDeep
  | duplicateKey
  | notATable
  | wrongKind (wanted : String)
deriving DecidableEq, Repr

def Fault.message : Fault → String
  | unexpectedEnd => "document ends too early"
  | badKey => "invalid key"
  | badValue => "invalid value"
  | badText => "invalid string"
  | badEscape => "invalid escape sequence"
  | badNumber => "invalid number"
  | badDate => "invalid date-time"
  | trailing => "unexpected text after a value"
  | controlCharacter => "control character"
  | unclosed => "unclosed bracket"
  | tooDeep => "nested too deeply"
  | duplicateKey => "duplicate key"
  | notATable => "dotted key leads through a value"
  | wrongKind wanted => "invalid type, expected " ++ wanted

/-- How a table came to be. -/
inductive TableKind where
  /-- It was written in braces. -/
  | inline
  /-- It arose from a dotted key between braces. -/
  | inlineDotted
  /-- It has a heading of its own, or is the document. -/
  | headed
  /-- It lies on the way to another heading. -/
  | implied
  /-- It arose from a dotted key. -/
  | dotted
deriving DecidableEq, Inhabited, Repr

inductive Value where
  | text (s : String)
  | whole (n : Int)
  /-- A number with a fraction or exponent; no setting has such a value. -/
  | real
  | truth (b : Bool)
  | date
  | list (items : List Value)
  | table (kind : TableKind) (entries : List (String × Value))
  /-- Tables under one repeated heading, latest first. -/
  | tables (latestFirst : List Value)
deriving Inhabited, Repr

abbrev Entries := List (String × Value)

def Entries.get? (es : Entries) (k : String) : Option Value :=
  (es.find? fun e => e.1 == k).map (·.2)

def Entries.put (es : Entries) (k : String) (v : Value) : Entries :=
  if es.any fun e => e.1 == k then es.map fun e => if e.1 == k then (k, v) else e
  else es ++ [(k, v)]

def Entries.add (es : Entries) (k : String) (v : Value) : Except Fault Entries :=
  if es.any fun e => e.1 == k then .error .duplicateKey else .ok (es ++ [(k, v)])

end MountProbe.Toml
