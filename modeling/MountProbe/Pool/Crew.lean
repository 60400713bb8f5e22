/-! The threads behind a pool. A dispatcher starts the workers, looks at one job after another and
hands jobs over on a channel without room: a job leaves it only when a worker takes it. Results come
back on a channel with room for all of them. A channel ends when nobody can send on it any more:
workers go when no more jobs can come, and the dispatcher is done when no more results can. Each
thread does one thing after another; which thread goes next is open. -/
namespace MountProbe

/-- What the dispatcher makes of a job. It need not hand over the very job that it looked at. -/
inductive Decision (ι τ : Type) where
  | handOver (job : ι)
  | settle (result : τ)
  | skip
deriving DecidableEq, Inhabited, Repr

inductive Worker (ι τ : Type) where
  | waiting
  | working (job : ι)
  /-- It has a result and has not yet sent it. -/
  | returning (job : ι) (result : τ)
  | gone
deriving DecidableEq, Inhabited, Repr

inductive Dispatcher (ι τ : Type) where
  /-- So many workers are still to be started. -/
  | hiring (left : Nat)
  | looking
  | handing (job : ι)
  /-- There is nobody to take the job, and it does the job itself. -/
  | working (job : ι)
  | returning (job : ι) (result : τ)
  /-- It has settled a job and has not yet sent the result. -/
  | settling (job : ι) (result : τ)
  /-- No more jobs can come from it. -/
  | closing
  /-- No more results can come from it either. -/
  | draining
  | done
deriving DecidableEq, Inhabited, Repr

structure Crew (ι τ : Type) where
  dispatcher : Dispatcher ι τ
  /-- The jobs that the dispatcher has not looked at. -/
  pending : List ι
  workers : List (Worker ι τ)
  /-- Results on their way back. -/
  sent : List τ
  /-- Results that have arrived, latest first. -/
  collected : List τ
deriving DecidableEq, Inhabited, Repr

namespace Worker

variable {ι τ : Type}

def isGone : Worker ι τ → Bool
  | gone => true
  | _ => false

def isWorking : Worker ι τ → Bool
  | working _ => true
  | _ => false

/-- The job that it has taken, until the result is sent. -/
def job? : Worker ι τ → Option ι
  | working job => some job
  | returning job _ => some job
  | waiting | gone => none

end Worker

namespace Dispatcher

variable {ι τ : Type}

/-- It can still send jobs. -/
def hasJobs : Dispatcher ι τ → Bool
  | closing | draining | done => false
  | _ => true

/-- It can still send results. -/
def hasResults : Dispatcher ι τ → Bool
  | draining | done => false
  | _ => true

def isWorking : Dispatcher ι τ → Bool
  | working _ => true
  | _ => false

def job? : Dispatcher ι τ → Option ι
  | working job => some job
  | returning job _ => some job
  | hiring _ | looking | handing _ | settling _ _ | closing | draining | done => none

def offer? : Dispatcher ι τ → Option ι
  | handing job => some job
  | _ => none

def settling? : Dispatcher ι τ → Option (ι × τ)
  | settling job result => some (job, result)
  | _ => none

def after (job : ι) : Decision ι τ → Dispatcher ι τ
  | .handOver label => handing label
  | .settle result => settling job result
  | .skip => looking

end Dispatcher

namespace Crew

variable {ι τ : Type}

/-- A crew before its first worker has been started; there will be at least one. -/
def start (workers : Nat) (jobs : List ι) : Crew ι τ :=
  ⟨.hiring (max workers 1), jobs, [], [], []⟩

/-- No worker is left, or none could be started: nobody can take a job. -/
def isDeserted (c : Crew ι τ) : Bool :=
  c.workers.all Worker.isGone

/-- Nobody can send a result any more. -/
def resultsEnded (c : Crew ι τ) : Bool :=
  !c.dispatcher.hasResults && c.isDeserted

def isDone (c : Crew ι τ) : Bool :=
  match c.dispatcher with
  | .done => true
  | _ => false

/-- How many jobs are being done at this moment. -/
def running (c : Crew ι τ) : Nat :=
  c.workers.countP Worker.isWorking + if c.dispatcher.isWorking then 1 else 0

def results (c : Crew ι τ) : List τ :=
  c.collected.reverse

/-- What one thread does; a job that the dispatcher does itself has no worker. -/
inductive Event (ι τ : Type) where
  | hired (started : Bool)
  | gathered
  | considered (job : ι) (decision : Decision ι τ)
  | settled (job : ι) (result : τ)
  | took (worker : Option Nat) (job : ι)
  | came (worker : Option Nat) (job : ι) (result : τ)
  | gave (worker : Option Nat) (job : ι) (result : τ)
  | jobsClosed
  | resultsClosed
  | left (worker : Nat)
  | collected (result : τ)
  | ended
deriving DecidableEq, Repr

/-- What the dispatcher does next, if it does not wait for others. Whether a worker can be started,
what it decides and what comes of a job are not up to it. -/
def dispatch? (starts : Bool) (decide : ι → Decision ι τ) (process : ι → τ) (c : Crew ι τ) :
    Option (Event ι τ × Crew ι τ) :=
  match c.dispatcher with
  | .hiring 0 => some (.gathered, { c with dispatcher := .looking })
  | .hiring (left + 1) =>
    some (.hired starts, { c with
      dispatcher := .hiring left
      workers := if starts then c.workers ++ [.waiting] else c.workers })
  | .looking =>
    match c.pending with
    | [] => some (.jobsClosed, { c with dispatcher := .closing })
    | job :: rest =>
      some (.considered job (decide job),
        { c with dispatcher := .after job (decide job), pending := rest })
  | .handing job =>
    if c.isDeserted then some (.took none job, { c with dispatcher := .working job }) else none
  | .working job =>
    some (.came none job (process job), { c with dispatcher := .returning job (process job) })
  | .returning job result =>
    some (.gave none job result, { c with dispatcher := .looking, sent := c.sent ++ [result] })
  | .settling job result =>
    some (.settled job result, { c with dispatcher := .looking, sent := c.sent ++ [result] })
  | .closing => some (.resultsClosed, { c with dispatcher := .draining })
  | .draining =>
    match c.sent with
    | result :: rest =>
      some (.collected result, { c with sent := rest, collected := result :: c.collected })
    | [] => if c.resultsEnded then some (.ended, { c with dispatcher := .done }) else none
  | .done => none

/-- What a worker does next, if it does not wait for the dispatcher. -/
def work? (process : ι → τ) (k : Nat) (c : Crew ι τ) : Option (Event ι τ × Crew ι τ) :=
  match c.workers[k]? with
  | some .waiting =>
    match c.dispatcher with
    | .handing job =>
      some (.took (some k) job,
        { c with dispatcher := .looking, workers := c.workers.set k (.working job) })
    | other =>
      if other.hasJobs then none
      else some (.left k, { c with workers := c.workers.set k .gone })
  | some (.working job) =>
    some (.came (some k) job (process job),
      { c with workers := c.workers.set k (.returning job (process job)) })
  | some (.returning job result) =>
    some (.gave (some k) job result,
      { c with workers := c.workers.set k .waiting, sent := c.sent ++ [result] })
  | _ => none

/-- One thread does one thing. -/
inductive Step : Crew ι τ → Event ι τ → Crew ι τ → Prop where
  | dispatcher {c d : Crew ι τ} {e : Event ι τ} (starts : Bool) (decide : ι → Decision ι τ)
    (process : ι → τ) : c.dispatch? starts decide process = some (e, d) → Step c e d
  | worker {c d : Crew ι τ} {e : Event ι τ} (process : ι → τ) (k : Nat) :
    c.work? process k = some (e, d) → Step c e d

inductive Run : Crew ι τ → List (Event ι τ) → Crew ι τ → Prop where
  | refl (c : Crew ι τ) : Run c [] c
  | step {b c d : Crew ι τ} {es : List (Event ι τ)} {e : Event ι τ} :
    Run b es c → Step c e d → Run b (es ++ [e]) d

/-- The decision, if there is one, is that of a dispatcher who decides by the job alone. -/
def Event.Decides (decide : ι → Decision ι τ) : Event ι τ → Prop
  | considered job decision => decision = decide job
  | _ => True

/-- What comes of a job, if something does, depends on the job alone. -/
def Event.Returns (process : ι → τ) : Event ι τ → Prop
  | came _ job result => result = process job
  | _ => True

/-- The dispatcher goes first, and then the workers in the order in which they were started. -/
def next? (decide : ι → Decision ι τ) (process : ι → τ) (c : Crew ι τ) :
    Option (Event ι τ × Crew ι τ) :=
  (c.dispatch? true decide process).or
    ((List.range c.workers.length).findSome? fun k => c.work? process k)

def drive (decide : ι → Decision ι τ) (process : ι → τ) : Nat → Crew ι τ → Crew ι τ
  | 0, c => c
  | n + 1, c =>
    match c.next? decide process with
    | some (_, d) => drive decide process n d
    | none => c

/-- The results for jobs. Each takes at most five steps, each worker two and the end four. -/
def run (workers : Nat) (decide : ι → Decision ι τ) (process : ι → τ) (jobs : List ι) : List τ :=
  (drive decide process (5 * jobs.length + 2 * max workers 1 + 4) (start workers jobs)).results

end Crew

end MountProbe
