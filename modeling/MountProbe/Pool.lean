import MountProbe.Pool.Crew

/-! A pool of workers. A dispatcher looks at one job after another: it passes over it, settles it
itself, or hands it to a worker as soon as one is free. Results come back in the order in which
they are ready. Which step comes next is open: every order of steps is a run of the pool. -/
namespace MountProbe

inductive Admission (τ : Type) where
  | dispatch
  | resolved (result : τ)
  | skip
deriving DecidableEq, Inhabited, Repr

/-- The decision of a dispatcher who hands over the very job that it looks at. -/
def Admission.decision {ι τ : Type} (job : ι) : Admission τ → Decision ι τ
  | dispatch => .handOver job
  | resolved result => .settle result
  | skip => .skip

structure Pool (ι τ : Type) where
  workers : Nat
  pending : List ι
  /-- The job that waits for a free worker. -/
  handing : Option ι
  busy : List ι
  /-- Results on their way back. -/
  ready : List τ
  /-- Results that have arrived, latest first. -/
  collected : List τ
deriving DecidableEq, Inhabited, Repr

namespace Pool

variable {ι τ : Type}

/-- A pool before its first job; it has at least one worker. -/
def start (workers : Nat) (jobs : List ι) : Pool ι τ :=
  ⟨max workers 1, jobs, none, [], [], []⟩

/-- The next job that the dispatcher looks at, if it does not wait for a worker. -/
def next? (p : Pool ι τ) : Option ι :=
  match p.handing with
  | some _ => none
  | none => p.pending.head?

def consider (p : Pool ι τ) (verdict : Admission τ) : Option (Pool ι τ) :=
  match p.handing, p.pending with
  | none, job :: rest =>
    match verdict with
    | .dispatch => some { p with pending := rest, handing := some job }
    | .resolved result => some { p with pending := rest, ready := p.ready ++ [result] }
    | .skip => some { p with pending := rest }
  | _, _ => none

def take (p : Pool ι τ) : Option (Pool ι τ) :=
  match p.handing with
  | some job =>
    if p.busy.length < p.workers then some { p with handing := none, busy := p.busy ++ [job] }
    else none
  | none => none

def finish [DecidableEq ι] (p : Pool ι τ) (job : ι) (result : τ) : Option (Pool ι τ) :=
  if job ∈ p.busy then some { p with busy := p.busy.erase job, ready := p.ready ++ [result] }
  else none

/-- The first result on its way arrives; the dispatcher waits for results when it has no more
jobs. -/
def collect (p : Pool ι τ) : Option (Pool ι τ) :=
  match p.pending, p.handing, p.ready with
  | [], none, result :: rest => some { p with ready := rest, collected := result :: p.collected }
  | _, _, _ => none

def isDone (p : Pool ι τ) : Bool :=
  p.pending.isEmpty && p.handing.isNone && p.busy.isEmpty && p.ready.isEmpty

def results (p : Pool ι τ) : List τ :=
  p.collected.reverse

inductive Event (ι τ : Type) where
  | considered (job : ι) (verdict : Admission τ)
  | took (job : ι)
  | finished (job : ι) (result : τ)
  | collected (result : τ)

inductive Step [DecidableEq ι] : Pool ι τ → Event ι τ → Pool ι τ → Prop where
  | consider {p q : Pool ι τ} {job : ι} {verdict : Admission τ} :
    p.next? = some job → p.consider verdict = some q → Step p (.considered job verdict) q
  | take {p q : Pool ι τ} {job : ι} :
    p.handing = some job → p.take = some q → Step p (.took job) q
  | finish {p q : Pool ι τ} {job : ι} {result : τ} :
    p.finish job result = some q → Step p (.finished job result) q
  | collect {p q : Pool ι τ} {result : τ} :
    p.ready.head? = some result → p.collect = some q → Step p (.collected result) q

inductive Run [DecidableEq ι] : Pool ι τ → List (Event ι τ) → Pool ι τ → Prop where
  | refl (p : Pool ι τ) : Run p [] p
  | step {p q r : Pool ι τ} {es : List (Event ι τ)} {e : Event ι τ} :
    Run p es q → Step q e r → Run p (es ++ [e]) r

/-- The results for jobs, when the threads behind the pool take turns. -/
def run (workers : Nat) (verdict : ι → Admission τ) (process : ι → τ) (jobs : List ι) : List τ :=
  Crew.run workers (fun job => (verdict job).decision job) process jobs

end Pool

end MountProbe
