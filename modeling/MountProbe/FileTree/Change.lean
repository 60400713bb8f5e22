import MountProbe.FileTree.Basic

/-! Changes to a tree of files: making, opening, writing, renaming and removing. Each fails as the
system would, with the tree as it was. -/
namespace MountProbe.FileTree

def setNode (t : FileTree) (i : NodeId) (n : Node) : FileTree :=
  { t with nodes := t.nodes.setIfInBounds i n }

def addEntry (t : FileTree) (dir : NodeId) (name : Bytes) (i : NodeId) : FileTree :=
  match t.node dir with
  | .dir parent entries closed => t.setNode dir (.dir parent (entries ++ [(name, i)]) closed)
  | _ => t

def dropEntry (t : FileTree) (dir : NodeId) (name : Bytes) : FileTree :=
  match t.node dir with
  | .dir parent entries closed =>
    t.setNode dir (.dir parent (entries.filter fun e => e.1 != name) closed)
  | _ => t

def create (t : FileTree) (dir : NodeId) (name : Bytes) (n : Node) :
    Except Errno (FileTree × NodeId) :=
  match t.node dir with
  | .dir _ _ true => .error .noEntry
  | .dir _ _ false =>
    let i := t.nodes.size
    .ok (({ t with nodes := t.nodes.push n } : FileTree).addEntry dir name i, i)
  | _ => .error .notDirectory

def makeDir (t : FileTree) (p : Path) : Except IoFault FileTree := do
  match ← t.spotOf p with
  | .here _ => .error (.os .alreadyExists)
  | .entry dir name =>
    match t.entry? dir name with
    | some _ => .error (.os .alreadyExists)
    | none => return (← lift (t.create dir name (.dir dir [] false))).1

/-- Makes a directory with those above it, as far as they are missing; stays as far as it got if
it fails. -/
def makeDirs : Nat → FileTree → Path → FileTree × Except IoFault Unit
  | 0, t, _ => (t, .error (.other "failed to create whole tree"))
  | fuel + 1, t, p =>
    if p.isEmpty then (t, .ok ())
    else
      match t.makeDir p with
      | .ok t' => (t', .ok ())
      | .error fault =>
        if !fault.isMissing then (t, if t.isDir p then .ok () else .error fault)
        else
          match p.parent? with
          | none => (t, .error (.other "failed to create whole tree"))
          | some above =>
            match makeDirs fuel t above with
            | (t', .error fault) => (t', .error fault)
            | (t', .ok ()) =>
              match t'.makeDir p with
              | .ok t'' => (t'', .ok ())
              | .error fault => (t', if t'.isDir p then .ok () else .error fault)

def makeAll (t : FileTree) (p : Path) : FileTree × Except IoFault Unit :=
  makeDirs (p.raw.length + 1) t p

/-- Takes the last step of a name that is opened for writing: what is missing is made. -/
def openSpot (t : FileTree) (links : Nat) : Spot → Except Errno (FileTree × NodeId)
  | .here _ => .error .isDirectory
  | .entry dir name =>
    match t.entry? dir name with
    | none => t.create dir name (.file [])
    | some child =>
      match t.node child with
      | .dir _ _ _ => .error .isDirectory
      | .link target =>
        match links with
        | 0 => .error .linkLoop
        | fewer + 1 =>
          match t.locate fewer (startOf dir target) (steps target) with
          | .error e => .error e
          | .ok (spot, left) =>
            if target.getLast? = some Path.slash then .error .isDirectory
            else t.openSpot (min left fewer) spot
      | _ => .ok (t, child)
termination_by links
decreasing_by omega

def openFile (t : FileTree) (p : Path) : Except IoFault (FileTree × NodeId) := do
  checkName p
  let (spot, links) ← lift (t.locate mostLinks (startOf t.current p.raw) (steps p.raw))
  if p.raw.getLast? = some Path.slash then .error (.os .isDirectory)
  lift (t.openSpot links spot)

def truncate (t : FileTree) (i : NodeId) : FileTree :=
  match t.node i with
  | .file _ => t.setNode i (.file [])
  | _ => t

def length (t : FileTree) (i : NodeId) : Nat :=
  match t.node i with
  | .file contents => contents.length
  | _ => 0

def append (t : FileTree) (i : NodeId) (bytes : Bytes) : Except Errno FileTree :=
  if bytes.isEmpty then .ok t
  else
    match t.node i with
    | .file contents => .ok (t.setNode i (.file (contents ++ bytes)))
    | .full => .error .noSpace
    | _ => .error .invalidArgument

/-- Waits until an open file is on its device; devices themselves cannot do that. -/
def sync (t : FileTree) (i : NodeId) : Except Errno Unit :=
  match t.node i with
  | .full => .error .invalidArgument
  | _ => .ok ()

def remove (t : FileTree) (p : Path) : Except IoFault FileTree := do
  match ← t.spotOf p with
  | .here _ => .error (.os .isDirectory)
  | .entry dir name =>
    match t.entry? dir name with
    | none => .error (.os .noEntry)
    | some child =>
      if t.isDirNode child then .error (.os .isDirectory)
      else if p.raw.getLast? = some Path.slash then .error (.os .notDirectory)
      else return t.dropEntry dir name

/-- Makes a name that stands for another name, which is not empty. A name that ends in a slash is
a directory's, so none is made there. -/
def makeLink (t : FileTree) (p : Path) (target : Bytes) : Except IoFault FileTree := do
  if target.isEmpty then .error (.os .noEntry)
  match ← t.spotOf p with
  | .here _ => .error (.os .alreadyExists)
  | .entry dir name =>
    match t.entry? dir name with
    | some _ => .error (.os .alreadyExists)
    | none =>
      if p.raw.getLast? = some Path.slash then .error (.os .noEntry)
      else return (← lift (t.create dir name (.link target))).1

def removeAll (t : FileTree) (p : Path) : Except IoFault FileTree := do
  match ← t.spotOf p with
  | .here _ => .error (.os .busy)
  | .entry dir name =>
    match t.entry? dir name with
    | none => .error (.os .noEntry)
    | some child =>
      if !t.isDirNode child && p.raw.getLast? == some Path.slash then .error (.os .notDirectory)
      else return t.dropEntry dir name

def liesIn (t : FileTree) (outer : NodeId) : Nat → NodeId → Bool
  | 0, i => i == outer
  | fuel + 1, i => i == outer || (i != 0 && t.liesIn outer fuel (t.parentOf i))

def move (t : FileTree) (fromDir : NodeId) (fromName : Bytes) (toDir : NodeId) (toName : Bytes)
    (i : NodeId) : FileTree :=
  let t := ((t.dropEntry fromDir fromName).dropEntry toDir toName).addEntry toDir toName i
  match t.node i with
  | .dir _ entries closed => t.setNode i (.dir toDir entries closed)
  | _ => t

/-- Renames. A file takes the place of a file, a directory that of an empty directory. -/
def rename (t : FileTree) (source target : Path) : Except IoFault FileTree := do
  let sourceSpot ← t.spotOf source
  let targetSpot ← t.spotOf target
  match sourceSpot, targetSpot with
  | .entry fromDir fromName, .entry toDir toName =>
    match t.entry? fromDir fromName with
    | none => .error (.os .noEntry)
    | some i =>
      let old := t.entry? toDir toName
      let isDir := t.isDirNode i
      if !isDir && (source.raw.getLast? == some Path.slash ||
          target.raw.getLast? == some Path.slash) then
        .error (.os .notDirectory)
      else if old == some i then return t
      else if isDir && t.liesIn i t.nodes.size toDir then .error (.os .invalidArgument)
      else
        match old.map fun o => (t.isDirNode o, (t.entriesOf o).isEmpty) with
        | none => return t.move fromDir fromName toDir toName i
        | some (false, _) =>
          if isDir then .error (.os .notDirectory)
          else return t.move fromDir fromName toDir toName i
        | some (true, empty) =>
          if !isDir then .error (.os .isDirectory)
          else if !empty then .error (.os .notEmpty)
          else return t.move fromDir fromName toDir toName i
  | _, _ => .error (.os .busy)

end MountProbe.FileTree
