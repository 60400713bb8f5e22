import MountProbe.Failure

/-! A tree of files, and how names are followed in it. Directories give names to nodes; a node
lives on while it is open, even without a name. -/
namespace MountProbe

abbrev NodeId := Nat

inductive Node where
  | file (contents : Bytes)
  /-- A directory: the one above it, its entries, and whether the system keeps it closed to new
  ones. -/
  | dir (parent : NodeId) (entries : List (Bytes × NodeId)) (closed : Bool)
  | link (target : Bytes)
  /-- A device on which every byte written finds no room. -/
  | full
deriving DecidableEq, Inhabited, Repr

/-- A tree. Node 0 is the root; relative names start at the current directory. -/
structure FileTree where
  nodes : Array Node
  current : NodeId
deriving Inhabited, Repr

namespace FileTree

def node (t : FileTree) (i : NodeId) : Node :=
  t.nodes.getD i (.file [])

def isDirNode (t : FileTree) (i : NodeId) : Bool :=
  match t.node i with
  | .dir _ _ _ => true
  | _ => false

def parentOf (t : FileTree) (i : NodeId) : NodeId :=
  match t.node i with
  | .dir parent _ _ => parent
  | _ => 0

def entriesOf (t : FileTree) (i : NodeId) : List (Bytes × NodeId) :=
  match t.node i with
  | .dir _ entries _ => entries
  | _ => []

def entry? (t : FileTree) (dir : NodeId) (name : Bytes) : Option NodeId :=
  ((t.entriesOf dir).find? fun e => e.1 == name).map (·.2)

/-- Where a name leads, its last step not taken. -/
inductive Spot where
  /-- To a directory, by way of "." or ".." or the root. -/
  | here (dir : NodeId)
  /-- To an entry that a directory may have. -/
  | entry (dir : NodeId) (name : Bytes)
deriving DecidableEq, Repr

def longestName : Nat := 255

def longestPath : Nat := 4095

/-- Names lead through at most this many links. -/
def mostLinks : Nat := 40

def steps (raw : Bytes) : List Bytes :=
  (Path.splitAtSlashes raw).filter fun p => !p.isEmpty

/-- The steps of a link's target or a name; one that ends in a slash has to be a directory. -/
def stepsInto (raw : Bytes) : List Bytes :=
  if raw.getLast? = some Path.slash then steps raw ++ [[Path.dot]] else steps raw

def startOf (dir : NodeId) (raw : Bytes) : NodeId :=
  if raw.head? = some Path.slash then 0 else dir

/-- Follows all steps but the last, through at most so many links. -/
def locate (t : FileTree) (links : Nat) (dir : NodeId) :
    List Bytes → Except Errno (Spot × Nat)
  | [] => .ok (.here dir, links)
  | p :: rest =>
    if !t.isDirNode dir then .error .notDirectory
    else if longestName < p.length then .error .nameTooLong
    else if p = [Path.dot] then t.locate links dir rest
    else if p = [Path.dot, Path.dot] then t.locate links (t.parentOf dir) rest
    else if rest.isEmpty then .ok (.entry dir p, links)
    else
      match t.entry? dir p with
      | none => .error .noEntry
      | some child =>
        match t.node child with
        | .link target =>
          match links with
          | 0 => .error .linkLoop
          | links + 1 => t.locate links (startOf dir target) (stepsInto target ++ rest)
        | _ => t.locate links child rest
termination_by steps => (links, steps.length)

/-- Takes the last step, and goes on where it leads to a link. -/
def arrive (t : FileTree) (links : Nat) : Spot → Except Errno NodeId
  | .here dir => .ok dir
  | .entry dir name =>
    match t.entry? dir name with
    | none => .error .noEntry
    | some child =>
      match t.node child with
      | .link target =>
        match links with
        | 0 => .error .linkLoop
        | fewer + 1 =>
          match t.locate fewer (startOf dir target) (stepsInto target) with
          | .error e => .error e
          | .ok (spot, left) => t.arrive (min left fewer) spot
      | _ => .ok child
termination_by links
decreasing_by omega

def checkName (p : Path) : Except IoFault Unit :=
  if p.raw.contains 0 then .error .zeroInName
  else if p.raw.isEmpty then .error (.os .noEntry)
  else if longestPath < p.raw.length then .error (.os .nameTooLong)
  else .ok ()

def lift {α : Type} : Except Errno α → Except IoFault α
  | .ok a => .ok a
  | .error e => .error (.os e)

def spotOf (t : FileTree) (p : Path) : Except IoFault Spot := do
  checkName p
  let (spot, _) ← lift (t.locate mostLinks (startOf t.current p.raw) (steps p.raw))
  return spot

def find (t : FileTree) (p : Path) : Except IoFault NodeId := do
  checkName p
  let (spot, links) ← lift (t.locate mostLinks (startOf t.current p.raw) (stepsInto p.raw))
  lift (t.arrive links spot)

def holds (t : FileTree) (p : Path) : Bool :=
  match t.find p with
  | .ok _ => true
  | .error _ => false

def isDir (t : FileTree) (p : Path) : Bool :=
  match t.find p with
  | .ok i => t.isDirNode i
  | .error _ => false

def read (t : FileTree) (p : Path) : Except IoFault Bytes := do
  let i ← t.find p
  match t.node i with
  | .file contents => return contents
  | .dir _ _ _ => .error (.os .isDirectory)
  | _ => return []

/-- What is found where a file is named: nothing, a fault, or its bytes. -/
def lookup (t : FileTree) (p : Path) : Option (Except IoFault Bytes) :=
  if t.holds p then some (t.read p) else none

/-- All names below a directory, at most so many levels deep, with what they stand for. -/
def namesBelow (t : FileTree) : Nat → Bytes → NodeId → List (Bytes × Node)
  | 0, _, _ => []
  | fuel + 1, before, dir =>
    (t.entriesOf dir).flatMap fun (name, i) =>
      (before ++ name, t.node i) :: t.namesBelow fuel (before ++ name ++ [Path.slash]) i

def listing (t : FileTree) : List (Bytes × Node) :=
  (t.namesBelow t.nodes.size [] t.current).mergeSort fun a b =>
    (Bytes.compareBytes a.1 b.1).isLE

end FileTree

end MountProbe
