import MountProbe.Toml.Value

namespace MountProbe.Toml

def longestRun (c : Char) : Nat → List Char → Nat
  | run, [] => run
  | run, d :: rest => if d = c then max (run + 1) (longestRun c (run + 1) rest)
    else max run (longestRun c 0 rest)

def isControl (c : Char) : Bool :=
  (c.toNat < 0x20 || c.toNat == 0x7F) && c != '\t' && c != '\n'

inductive Form where
  | basic
  | literal
  | longBasic
  | longLiteral
deriving DecidableEq, Repr

def formFor (cs : List Char) : Form :=
  let control := cs.any isControl
  let backslash := cs.contains '\\'
  let newline := cs.contains '\n'
  if ¬ control ∧ ¬ backslash ∧ ¬ newline ∧ ¬ cs.contains '"' then .basic
  else if ¬ control ∧ ¬ newline ∧ ¬ cs.contains '\'' then .literal
  else if ¬ control ∧ ¬ backslash ∧ longestRun '"' 0 cs ≤ 2 then .longBasic
  else if ¬ control ∧ longestRun '\'' 0 cs ≤ 2 then .longLiteral
  else if newline then .longBasic
  else .basic

def hex4 (n : Nat) : List Char :=
  let ds := (Nat.toDigits 16 n).map Char.toUpper
  List.replicate (4 - ds.length) '0' ++ ds

/-- A text between double quotes. So many quotes in a row may stand as they are; line feeds may if
the string has several lines. -/
def escaped (quotes : Nat) (long : Bool) : Nat → List Char → List Char
  | _, [] => []
  | run, c :: rest =>
    if c = '"' then
      if run < quotes then c :: escaped quotes long (run + 1) rest
      else '\\' :: '"' :: escaped quotes long 0 rest
    else if c = '\n' ∧ long then c :: escaped quotes long 0 rest
    else
      (if c = '\x08' then ['\\', 'b']
      else if c = '\t' then ['\\', 't']
      else if c = '\n' then ['\\', 'n']
      else if c = '\x0c' then ['\\', 'f']
      else if c = '\r' then ['\\', 'r']
      else if c = '\\' then ['\\', '\\']
      else if isControl c then '\\' :: 'u' :: hex4 c.toNat
      else [c]) ++ escaped quotes long 0 rest

/-- A line feed after the opening quotes, which does not count, if the text has one. -/
def opening (cs : List Char) : List Char :=
  if cs.contains '\n' then ['\n'] else []

def quote (cs : List Char) : List Char :=
  match formFor cs with
  | .basic => '"' :: escaped 0 false 0 cs ++ ['"']
  | .literal => '\'' :: cs ++ ['\'']
  | .longBasic => ['"', '"', '"'] ++ opening cs ++ escaped 2 true 0 cs ++ ['"', '"', '"']
  | .longLiteral => ['\'', '\'', '\''] ++ opening cs ++ cs ++ ['\'', '\'', '\'']

end MountProbe.Toml
