import MountProbe.Binary64.Decimal

namespace MountProbe.Gauge

inductive Fault where
  | noHelp
  | badName (name : String)
  | badLabel (name : String)
  | repeatedLabel (name : String)
  | repeatedFamily
  | wrongCount (expected given : Nat)
deriving DecidableEq, Inhabited, Repr

def Fault.message : Fault → String
  | noHelp => "Error: empty help string"
  | badName name => "Error: '" ++ name ++ "' is not a valid metric name"
  | badLabel name => "Error: '" ++ name ++ "' is not a valid label name"
  | repeatedLabel name => "Error: duplicate variable label name " ++ name
  | repeatedFamily => "Duplicate metrics collector registration attempted"
  | wrongCount expected given =>
    "Inconsistent label cardinality, expect " ++ toString expected ++ " label values, but got " ++
      toString given

/-- A series: its label values, in the order of the family's label names, and its number. -/
structure Series where
  values : List String
  number : Binary64
deriving DecidableEq, Inhabited, Repr

def identity (values : List String) : String :=
  String.join values

/-- Gives the series of the values a number; a new one goes to the end. -/
def assign (values : List String) (number : Binary64) : List Series → List Series
  | [] => [⟨values, number⟩]
  | s :: rest =>
    if identity s.values = identity values then { s with number } :: rest
    else s :: assign values number rest

def numberOf? (values : List String) (series : List Series) : Option Binary64 :=
  (series.find? fun s => identity s.values = identity values).map Series.number

structure Family where
  name : String
  help : String
  labels : List String
  /-- In the order in which they were first given a number. -/
  series : List Series
deriving DecidableEq, Inhabited, Repr

def isNameStart (c : Char) : Bool :=
  c.isAlpha || c = '_'

def isFamilyNameStart (c : Char) : Bool :=
  isNameStart c || c = ':'

def isName (start : Char → Bool) : List Char → Bool
  | [] => false
  | c :: rest => start c && rest.all fun d => start d || d.isDigit

/-- The first fault in a list of label names, given the names before it. -/
def labelFault? (before : List String) : List String → Option Fault
  | [] => none
  | l :: rest =>
    if !isName isNameStart l.toList then some (.badLabel l)
    else if before.contains l then some (.repeatedLabel l)
    else labelFault? (l :: before) rest

namespace Family

def empty (name help : String) (labels : List String) : Family :=
  ⟨name, help, labels, []⟩

def fault? (f : Family) : Option Fault :=
  if f.help.isEmpty then some .noHelp
  else if !isName isFamilyNameStart f.name.toList then some (.badName f.name)
  else labelFault? [] f.labels

def declare (name help : String) (labels : List String) : Except Fault Family :=
  match (empty name help labels).fault? with
  | some fault => .error fault
  | none => .ok (empty name help labels)

def put (f : Family) (values : List String) (number : Binary64) : Family :=
  { f with series := assign values number f.series }

def set (f : Family) (values : List String) (number : Binary64) : Except Fault Family :=
  if values.length = f.labels.length then .ok (f.put values number)
  else .error (.wrongCount f.labels.length values.length)

end Family

end MountProbe.Gauge
