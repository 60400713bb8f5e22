import MountProbe.Unicode.Printable

namespace MountProbe.Text

def digits (base n : Nat) : List Char :=
  Nat.toDigits base n

def numericEscape (c : Char) : List Char :=
  ['\\', 'u', '\x7b'] ++ digits 16 c.toNat ++ ['\x7d']

def quoteChar (c : Char) : List Char :=
  if c = '\x00' then ['\\', '0']
  else if c = '\t' then ['\\', 't']
  else if c = '\r' then ['\\', 'r']
  else if c = '\n' then ['\\', 'n']
  else if c = '\\' then ['\\', '\\']
  else if c = '"' then ['\\', '"']
  else if ' ' ≤ c ∧ c ≤ '~' then [c]
  else if Unicode.extendsPrevious c || !Unicode.isPrintable c then numericEscape c
  else [c]

def quote (s : String) : String :=
  String.ofList ('"' :: s.toList.flatMap quoteChar ++ ['"'])

end MountProbe.Text
