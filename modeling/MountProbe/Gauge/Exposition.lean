import MountProbe.Gauge.Family

namespace MountProbe.Gauge

/-- Families, of which no two have one name. -/
structure Exposition where
  families : List Family
deriving Inhabited

namespace Exposition

def empty : Exposition := ⟨[]⟩

def holds (x : Exposition) (name : String) : Bool :=
  x.families.any fun f => f.name = name

def add (x : Exposition) (f : Family) : Except Fault Exposition :=
  if x.holds f.name then .error .repeatedFamily else .ok ⟨x.families ++ [f]⟩

end Exposition

def escapeHelp (c : Char) : List Char :=
  if c = '\\' then ['\\', '\\']
  else if c = '\n' then ['\\', 'n']
  else [c]

def escapeValue (c : Char) : List Char :=
  if c = '"' then ['\\', '"'] else escapeHelp c

def sortedPairs (labels values : List String) : List (String × String) :=
  (labels.zip values).mergeSort fun a b => a.1 ≤ b.1

def pairsText : List (String × String) → List Char
  | [] => []
  | [(name, value)] => name.toList ++ '=' :: '"' :: value.toList.flatMap escapeValue ++ ['"']
  | (name, value) :: p :: rest =>
    name.toList ++ '=' :: '"' :: value.toList.flatMap escapeValue ++ '"' :: ',' ::
      pairsText (p :: rest)

def labelsText : List (String × String) → List Char
  | [] => []
  | pairs => '\x7b' :: pairsText pairs ++ ['\x7d']

/-- The values stand in the order of their label names and are compared in turn. -/
def valuesLe (a b : List (String × String)) : Bool :=
  !decide (b.map Prod.snd < a.map Prod.snd)

namespace Family

def rows (f : Family) : List (List (String × String) × Binary64) :=
  (f.series.map fun s => (sortedPairs f.labels s.values, s.number)).mergeSort fun a b =>
    valuesLe a.1 b.1

def rowText (name : String) (row : List (String × String) × Binary64) : List Char :=
  name.toList ++ labelsText row.1 ++ ' ' :: row.2.display.toList ++ ['\n']

def text (f : Family) : List Char :=
  "# HELP ".toList ++ f.name.toList ++ ' ' :: f.help.toList.flatMap escapeHelp ++
    "\n# TYPE ".toList ++ f.name.toList ++ " gauge\n".toList ++ f.rows.flatMap (rowText f.name)

end Family

namespace Exposition

def written (x : Exposition) : List Family :=
  (x.families.filter fun f => !f.series.isEmpty).mergeSort fun a b => a.name ≤ b.name

def text (x : Exposition) : String :=
  String.ofList (x.written.flatMap Family.text)

end Exposition

end MountProbe.Gauge
