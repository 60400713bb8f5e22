/-! Requests that reach a running watch from outside. A request is a flag: it stays until the watch
takes it, and raising it again changes nothing. -/
namespace MountProbe.Watch

inductive Request where
  | shutdown
  | reload
  | scrape
deriving DecidableEq, Inhabited, Repr

def Request.ofSignal? : Nat → Option Request
  | 1 => some reload
  | 2 => some shutdown
  | 10 => some scrape
  | 15 => some shutdown
  | _ => none

structure Signals where
  shutdown : Bool
  reload : Bool
  scrape : Bool
deriving DecidableEq, Inhabited, Repr

namespace Signals

def quiet : Signals := ⟨false, false, false⟩

def raise (s : Signals) : Request → Signals
  | .shutdown => { s with shutdown := true }
  | .reload => { s with reload := true }
  | .scrape => { s with scrape := true }

def isPending (s : Signals) : Bool :=
  s.shutdown || s.reload || s.scrape

def withoutReload (s : Signals) : Signals :=
  { s with reload := false }

def withoutScrape (s : Signals) : Signals :=
  { s with scrape := false }

end Signals

end MountProbe.Watch
