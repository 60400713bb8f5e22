import MountProbe.FileTree.Change

/-! Publishing a text in a file so that a reader finds the old text or the new one: the text goes
to a file beside it first, which is then renamed. -/
namespace MountProbe.Textfile

/-- The name beside a file under which its next contents are prepared. -/
def temporary (p : Path) : Path :=
  p.append ".tmp"

/-- The trees after the steps of a run, in order, and how it ended. -/
structure Run where
  states : List FileTree
  result : Except Failure Unit

/-- Ends a run that failed: the prepared file is removed if it can be. -/
def abandon (p : Path) (t : FileTree) (fault : IoFault) : List FileTree × Except Failure Unit :=
  match t.remove (temporary p) with
  | .ok t' => ([t'], .error (.io p fault))
  | .error _ => ([], .error (.io p fault))

def publish (p : Path) (t : FileTree) (i : NodeId) : List FileTree × Except Failure Unit :=
  match t.sync i with
  | .error e => abandon p t (.os e)
  | .ok () =>
    match t.rename (temporary p) p with
    | .error fault => abandon p t fault
    | .ok t' => ([t'], .ok ())

/-- The steps from the directory on: the file beside is opened and emptied, written, brought to
its device and renamed. -/
def replace (p : Path) (contents : Bytes) (t : FileTree) : List FileTree × Except Failure Unit :=
  match t.openFile (temporary p) with
  | .error fault => abandon p t fault
  | .ok (t, i) =>
    let opened := t.truncate i
    match opened.append i contents with
    | .error e =>
      let (later, result) := abandon p opened (.os e)
      (opened :: later, result)
    | .ok written =>
      let (later, result) := publish p written i
      (opened :: written :: later, result)

def run (t : FileTree) (p : Path) (contents : Bytes) : Run :=
  match p.parent? with
  | none => let (states, result) := replace p contents t; ⟨states, result⟩
  | some above =>
    match t.makeAll above with
    | (t', .error fault) => ⟨[t'], .error (.io above fault)⟩
    | (t', .ok ()) => let (states, result) := replace p contents t'; ⟨t' :: states, result⟩

def write (t : FileTree) (p : Path) (contents : Bytes) : FileTree × Except Failure Unit :=
  let r := run t p contents
  (r.states.getLastD t, r.result)

end MountProbe.Textfile
