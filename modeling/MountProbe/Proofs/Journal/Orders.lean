import MountProbe.Journal.Logger
import MountProbe.Proofs.Json.Line
import MountProbe.Proofs.Text.Reading

namespace MountProbe.Journal

inductive Order where
  | entry (now : Nat) (e : Entry)
  | flush
  | sync (now : Nat)
deriving Inhabited

def Order.line? : Order → Option Bytes
  | entry _ e => some (Text.utf8 e.line)
  | flush | sync _ => none

def linesOf (orders : List Order) : List Bytes :=
  orders.filterMap Order.line?

/-- The work of one writer, from its start to its end. -/
structure Session where
  began : Nat
  orders : List Order

namespace Writer

def obey (s : Scene) (w : Writer) : Order → Scene × Writer
  | .entry now e => w.write s now e
  | .flush => w.flush s
  | .sync now => w.sync s now

def obeyAll (s : Scene) (w : Writer) (orders : List Order) : Scene × Writer :=
  orders.foldl (fun (s, w) o => w.obey s o) (s, w)

/-- The end of a writer: what waits is written, and the file is closed. -/
def finish (s : Scene) (w : Writer) : Scene :=
  let (s, w) := w.flush s
  (w.closeSink s).1

/-- A writer that has done its work and goes on. -/
def atWork (c : Config) (refusals : List Bool) (s : Scene) (x : Session) : Scene × Writer :=
  let (s, w) := start s c x.began refusals
  w.obeyAll s x.orders

def session (c : Config) (refusals : List Bool) (s : Scene) (x : Session) : Scene :=
  let (s, w) := atWork c refusals s x
  w.finish s

theorem obeyAll_cons (s : Scene) (w : Writer) (o : Order) (orders : List Order) :
    w.obeyAll s (o :: orders) = (w.obey s o).2.obeyAll (w.obey s o).1 orders := rfl

theorem obeyAll_append (s : Scene) (w : Writer) (before after : List Order) :
    w.obeyAll s (before ++ after) =
      (w.obeyAll s before).2.obeyAll (w.obeyAll s before).1 after := by
  rw [obeyAll, List.foldl_append]
  rfl

end Writer

/-- One line of text, with its end. -/
def Whole (line : Bytes) : Prop :=
  ∃ body, line = body ++ [10] ∧ 10 ∉ body

theorem whole_line (e : Entry) : Whole (Text.utf8 e.line) := by
  refine ⟨Text.utf8 e.toJson.render, by rw [Entry.line, Text.utf8_append]; rfl, fun member => ?_⟩
  obtain ⟨c, here, encoded⟩ := List.mem_flatMap.mp member
  have newline : c = '\n' := Text.eq_of_ascii encoded (by decide)
  rw [newline] at here
  exact (Json.unbroken_render e.toJson).newline_not_mem here

theorem whole_of_mem_linesOf {orders : List Order} {line : Bytes} (h : line ∈ linesOf orders) :
    Whole line := by
  obtain ⟨o, -, taken⟩ := List.mem_filterMap.mp h
  cases o with
  | entry now e =>
    cases taken
    exact whole_line e
  | flush | sync => cases taken

theorem Whole.ne_nil {line : Bytes} (h : Whole line) : line ≠ [] := by
  obtain ⟨body, rfl, -⟩ := h
  simp

theorem linesOf_append (before after : List Order) :
    linesOf (before ++ after) = linesOf before ++ linesOf after :=
  List.filterMap_append

theorem linesOf_cons (o : Order) (orders : List Order) :
    linesOf (o :: orders) = o.line?.toList ++ linesOf orders := by
  cases h : o.line? <;> simp [linesOf, h]

end MountProbe.Journal
