import MountProbe.Binary64.Decimal

namespace MountProbe

inductive Json where
  | null
  | bool (b : Bool)
  | whole (n : Nat)
  | real (x : Binary64)
  | text (s : String)
  | list (items : List Json)
  | object (fields : List (String × Json))
deriving Inhabited

namespace Json

def hexDigit (n : Nat) : Char :=
  Nat.digitChar n

/-- A character inside a quoted text: quotes, backslashes and control characters are escaped,
all else stands as it is. -/
def escapeChar (c : Char) : List Char :=
  if c = '"' then ['\\', '"']
  else if c = '\\' then ['\\', '\\']
  else if c = '\x08' then ['\\', 'b']
  else if c = '\x0c' then ['\\', 'f']
  else if c = '\n' then ['\\', 'n']
  else if c = '\r' then ['\\', 'r']
  else if c = '\t' then ['\\', 't']
  else if c.toNat < 0x20 then
    ['\\', 'u', '0', '0', hexDigit (c.toNat / 16), hexDigit (c.toNat % 16)]
  else [c]

def renderText (s : List Char) : List Char :=
  '"' :: s.flatMap escapeChar ++ ['"']

mutual

def render : Json → List Char
  | null => "null".toList
  | bool b => if b then "true".toList else "false".toList
  | whole n => Nat.toDigits 10 n
  | real x => x.jsonNumeral.toList
  | text s => renderText s.toList
  | list items => '[' :: renderItems items
  | object fields => '\x7b' :: renderFields fields

def renderItems : List Json → List Char
  | [] => [']']
  | [v] => render v ++ [']']
  | v :: w :: rest => render v ++ ',' :: renderItems (w :: rest)

def renderFields : List (String × Json) → List Char
  | [] => ['\x7d']
  | [(k, v)] => renderText k.toList ++ ':' :: render v ++ ['\x7d']
  | (k, v) :: f :: rest =>
    renderText k.toList ++ ':' :: render v ++ ',' :: renderFields (f :: rest)

end

def insertField (k : String) (v : Json) : List (String × Json) → List (String × Json)
  | [] => [(k, v)]
  | (l, w) :: rest => if k < l then (k, v) :: (l, w) :: rest else (l, w) :: insertField k v rest

mutual

/-- The value with the fields of every object in the order of their names. -/
def sorted : Json → Json
  | list items => list (sortedItems items)
  | object fields => object (sortedFields fields)
  | other => other

def sortedItems : List Json → List Json
  | [] => []
  | v :: rest => sorted v :: sortedItems rest

def sortedFields : List (String × Json) → List (String × Json)
  | [] => []
  | (k, v) :: rest => insertField k (sorted v) (sortedFields rest)

end

def toLine (v : Json) : String :=
  String.ofList (render v)

end Json

end MountProbe
