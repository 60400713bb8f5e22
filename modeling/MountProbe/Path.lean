import MountProbe.Text.Utf8

/-! File names as the mount table and the file tree write them. A name is a byte string, but two
names that differ only in repeated slashes, inner "." pieces or a trailing slash name the same
place: names are compared by their components. Joining and cutting keep the bytes that stand
between the components. -/
namespace MountProbe

/-- A file name, absolute or not. The bytes need not spell text. -/
structure Path where
  raw : Bytes
deriving DecidableEq, Inhabited, Repr

namespace Path

inductive Component where
  | root
  /-- The "." that a relative path may start with; elsewhere "." is no step. -/
  | here
  | up
  | name (bytes : Bytes)
deriving DecidableEq, Inhabited, Repr

def slash : UInt8 := 0x2F

def dot : UInt8 := 0x2E

def ofString (s : String) : Path :=
  ⟨Text.utf8 s.toList⟩

/-- The bytes between slashes, in order; n slashes give n + 1 pieces. -/
def splitAtSlashes : Bytes → List Bytes
  | [] => [[]]
  | b :: rest =>
    match splitAtSlashes rest with
    | [] => [[b]]
    | p :: ps => if b = slash then [] :: p :: ps else (b :: p) :: ps

def joinPieces : List Bytes → Bytes
  | [] => []
  | [p] => p
  | p :: q :: ps => p ++ slash :: joinPieces (q :: ps)

def start : Bytes → Option (Component × Bytes)
  | [] => none
  | [b] => if b = slash then some (.root, []) else if b = dot then some (.here, []) else none
  | b :: c :: rest =>
    if b = slash then some (.root, c :: rest)
    else if b = dot ∧ c = slash then some (.here, c :: rest)
    else none

def head (p : Path) : Bytes :=
  match start p.raw with
  | some _ => p.raw.take 1
  | none => []

def body (p : Path) : List Bytes :=
  match start p.raw with
  | some (_, rest) => splitAtSlashes rest
  | none => splitAtSlashes p.raw

/-- A piece that is no step: nothing between two slashes, or ".". -/
def isIdle (piece : Bytes) : Bool :=
  piece = [] || piece = [dot]

def stepOf (piece : Bytes) : Option Component :=
  if isIdle piece then none
  else if piece = [dot, dot] then some .up
  else some (.name piece)

def components (p : Path) : List Component :=
  match start p.raw with
  | some (c, rest) => c :: (splitAtSlashes rest).filterMap stepOf
  | none => (splitAtSlashes p.raw).filterMap stepOf

/-- Both names go the same way. -/
def same (p q : Path) : Bool :=
  p.components = q.components

/-- Names are compared by where they go; `=` is for their bytes. -/
instance : BEq Path := ⟨same⟩

def isAbsolute (p : Path) : Bool :=
  p.raw.head? = some slash

def isEmpty (p : Path) : Bool :=
  p.raw.isEmpty

def Component.rank : Component → Nat
  | .root => 0
  | .here => 1
  | .up => 2
  | .name _ => 3

def Component.compare : Component → Component → Ordering
  | .name a, .name b => Bytes.compareBytes a b
  | a, b => Ord.compare a.rank b.rank

/-- The order of two step lists, first difference first; a shorter way comes before its
extensions. -/
def compareSteps : List Component → List Component → Ordering
  | [], [] => .eq
  | [], _ :: _ => .lt
  | _ :: _, [] => .gt
  | a :: as, b :: bs => (a.compare b).then (compareSteps as bs)

def compareByComponents (p q : Path) : Ordering :=
  compareSteps p.components q.components

def dropIdleEnd (pieces : List Bytes) : List Bytes :=
  (pieces.reverse.dropWhile isIdle).reverse

/-- What remains after a number of steps; idle pieces before the remaining ones go too. -/
def afterSteps (n : Nat) : List Bytes → List Bytes
  | [] => []
  | p :: ps =>
    if isIdle p then afterSteps n ps
    else
      match n with
      | 0 => p :: ps
      | n + 1 => afterSteps n ps

def trimmed (p : Path) : Path :=
  ⟨p.head ++ joinPieces (dropIdleEnd p.body)⟩

/-- The rest of a path below a base that its first steps are. -/
def below? (p base : Path) : Option Path :=
  let taken := base.components.length
  if base.components.isPrefixOf p.components then
    if taken = 0 then some p.trimmed
    else some ⟨joinPieces (dropIdleEnd (afterSteps (taken - p.head.length) p.body))⟩
  else none

/-- A path seen from a base: an absolute path replaces the base, any other follows it after a
slash, unless the base is empty or ends in one. -/
def join (base p : Path) : Path :=
  if p.isAbsolute then p
  else if base.raw.isEmpty || base.raw.getLast? = some slash then ⟨base.raw ++ p.raw⟩
  else ⟨base.raw ++ slash :: p.raw⟩

/-- The directory that holds the place: the path without its last step, if it has a step other
than the root. -/
def parent? (p : Path) : Option Path :=
  match dropIdleEnd p.body with
  | [] => if p.head = [dot] then some ⟨[]⟩ else none
  | pieces => some ⟨p.head ++ joinPieces (dropIdleEnd pieces.dropLast)⟩

def append (p : Path) (ending : String) : Path :=
  ⟨p.raw ++ Text.utf8 ending.toList⟩

def display (p : Path) : String :=
  p.raw.lossy

theorem same_iff {p q : Path} : p.same q = true ↔ p.components = q.components := by
  simp [same]

theorem same_refl (p : Path) : p.same p = true := by
  simp [same]

end Path

end MountProbe
