import MountProbe.Proofs.Journal.Sessions

/-! What a log keeps. The lines that it is given fall into pages, a new one for each rotation; its
names lead to the latest pages, one for the log and one for each older part that is kept. -/
namespace MountProbe.Journal

open FileTree

/-- The pages of a log, the latest first, after one more line. -/
def addLine (most : Nat) : List (List Bytes) → Bytes → List (List Bytes)
  | [], line => [[line]]
  | page :: older, line =>
    if most < page.flatten.length + line.length then [line] :: page :: older
    else (page ++ [line]) :: older

/-- A page is no larger than the log may be, or a single line. -/
def Fits (most : Nat) (page : List Bytes) : Prop :=
  page.flatten.length ≤ most ∨ ∃ line, page = [line]

theorem reverse_flatten_addLine (most : Nat) (pages : List (List Bytes)) (line : Bytes) :
    (addLine most pages line).reverse.flatten = pages.reverse.flatten ++ [line] := by
  cases pages with
  | nil => rfl
  | cons page older =>
    rw [addLine]
    split <;> simp

theorem reverse_flatten_addLines (most : Nat) (pages : List (List Bytes)) (lines : List Bytes) :
    (lines.foldl (addLine most) pages).reverse.flatten = pages.reverse.flatten ++ lines := by
  induction lines generalizing pages with
  | nil => rw [List.foldl_nil, List.append_nil]
  | cons line lines ih =>
    rw [List.foldl_cons, ih, reverse_flatten_addLine, List.append_assoc, List.singleton_append]

theorem fits_addLine {most : Nat} {pages : List (List Bytes)}
    (fits : ∀ page ∈ pages, Fits most page) (line : Bytes) :
    ∀ page ∈ addLine most pages line, Fits most page := by
  cases pages with
  | nil =>
    intro page member
    exact .inr ⟨line, List.mem_singleton.mp member⟩
  | cons latest older =>
    rw [addLine]
    split
    · exact List.forall_mem_cons.mpr ⟨.inr ⟨line, rfl⟩, fits⟩
    · rename_i room
      refine List.forall_mem_cons.mpr ⟨.inl ?_, (List.forall_mem_cons.mp fits).2⟩
      rw [List.flatten_append, List.flatten_singleton, List.length_append]
      omega

theorem fits_addLines {most : Nat} {pages : List (List Bytes)}
    (fits : ∀ page ∈ pages, Fits most page) (lines : List Bytes) :
    ∀ page ∈ lines.foldl (addLine most) pages, Fits most page := by
  induction lines generalizing pages with
  | nil => exact fits
  | cons line lines ih => exact ih (fits_addLine fits line)

theorem addLine_ne_nil (most : Nat) (pages : List (List Bytes)) (line : Bytes) :
    addLine most pages line ≠ [] := by
  cases pages with
  | nil => simp [addLine]
  | cons page older =>
    rw [addLine]
    split <;> simp

/-- So often a writer turns to a new page. -/
def rotations (s : Scene) (w : Writer) : List Order → Nat
  | [] => 0
  | o :: orders =>
    (if o.line?.any fun line => w.isFull line.length then 1 else 0) +
      rotations (w.obey s o).1 (w.obey s o).2 orders

section

variable {c : Config} {s v : Scene} {t : FileTree} {w : Writer} {k : Sink} {base : Path}
  {dir x : NodeId} {name d line : Bytes} {kept : Nat} {page : List Bytes}
  {pages older : List (List Bytes)}

/-- The names of a log lead to its latest pages, and there is nothing else beside them. -/
structure Filed (kept : Nat) (dir : NodeId) (name : Bytes) (pages : List (List Bytes))
    (t : FileTree) : Prop where
  there : ∀ i, (slot t dir name i).isSome = true ↔ i ≤ kept ∧ i < pages.length
  held : ∀ i x, slot t dir name i = some x → t.contents? x = pages[i]?.map List.flatten
  apart : ∀ i j x, slot t dir name i = some x → slot t dir name j = some x → i = j
  others : ∀ n, (∀ i, n ≠ logName name i) → t.entry? dir n = none

theorem Filed.slot_eq_none (h : Filed kept dir name pages t) {i : Nat}
    (out : ¬(i ≤ kept ∧ i < pages.length)) : slot t dir name i = none := by
  by_contra found
  exact out ((h.there i).mp (Option.isSome_iff_ne_none.mpr found))

theorem Filed.lookup (h : Filed kept dir name pages t) (shelf : Shelf t base kept dir name)
    {i : Nat} (low : i ≤ kept) :
    t.lookup (logPath base i) = pages[i]?.map fun page => .ok page.flatten := by
  rw [shelf.lookup low]
  cases here : slot t dir name i with
  | none =>
    have beyond : pages.length ≤ i := by
      by_contra within
      have found := (h.there i).mpr ⟨low, Nat.lt_of_not_le within⟩
      rw [here] at found
      cases found
    rw [List.getElem?_eq_none beyond]
    rfl
  | some x =>
    rw [Option.bind_some, h.held i x here, Option.map_map]
    rfl

theorem Filed.wayMade (h : Filed kept dir name pages t) (i : Nat) :
    wayMade kept (slot t dir name) (i + 1) =
      if i + 1 ≤ kept then slot t dir name i else none := by
  cases kept with
  | zero => exact h.slot_eq_none (by omega)
  | succ m =>
    have no_gap : slot t dir name m = none → slot t dir name (m + 1) = none := by
      intro missing
      refine h.slot_eq_none fun within => ?_
      have found := (h.there m).mpr ⟨by omega, by omega⟩
      rw [missing] at found
      cases found
    have apart : ∀ x, slot t dir name m = some x → slot t dir name (m + 1) ≠ some x := by
      intro x one other
      have := h.apart m (m + 1) x one other
      omega
    rw [Journal.wayMade, passDown_of_apart no_gap apart, if_neg (Nat.succ_ne_zero i)]
    split
    · rfl
    · exact h.slot_eq_none (by omega)

/-- A file that nothing has been written to takes the first name, and each page moves on. -/
theorem Filed.newPage {u : FileTree} {y : NodeId} (h : Filed kept dir name pages t)
    (fresh : slot u dir name 0 = some y) (empty : u.contents? y = some [])
    (moved : ∀ i, slot u dir name (i + 1) = if i + 1 ≤ kept then slot t dir name i else none)
    (older : ∀ i x, slot t dir name i = some x → x ≠ y ∧ u.contents? x = t.contents? x)
    (others : ∀ n, (∀ i, n ≠ logName name i) → u.entry? dir n = t.entry? dir n) :
    Filed kept dir name ([] :: pages) u where
  there i := by
    cases i with
    | zero => simp [fresh]
    | succ i =>
      rw [moved, List.length_cons]
      split
      · rw [h.there i]
        omega
      · constructor
        · intro found
          cases found
        · omega
  held i x here := by
    cases i with
    | zero =>
      cases fresh.symm.trans here
      rw [empty]
      rfl
    | succ i =>
      rw [moved] at here
      split at here
      · rw [(older i x here).2, h.held i x here, List.getElem?_cons_succ]
      · cases here
  apart i j x one other := by
    -- A page that has moved on is not the new one.
    have beside : ∀ i, slot u dir name (i + 1) = some x → x ≠ y := by
      intro i here
      rw [moved] at here
      split at here
      · exact (older i x here).1
      · cases here
    cases i with
    | zero =>
      cases j with
      | zero => rfl
      | succ j => exact absurd (Option.some.inj (one.symm.trans fresh)) (beside j other)
    | succ i =>
      cases j with
      | zero => exact absurd (Option.some.inj (other.symm.trans fresh)) (beside i one)
      | succ j =>
        rw [moved] at one other
        split at one
        · split at other
          · rw [h.apart i j x one other]
          · cases other
        · cases one
  others n other := (others n other).trans (h.others n other)

/-- A rotation begins a page. -/
theorem Filed.turned (h : Filed kept dir name pages t) (shelf : Shelf t base kept dir name) :
    ∃ u y, turned t base kept dir name = (u, y) ∧ Open u base kept dir name y [] ∧
      Filed kept dir name ([] :: pages) u := by
  obtain ⟨change, after⟩ := shelf.makeWay
  obtain ⟨parent, es, listed⟩ := after.isOpen
  have free := shelf.freed fun x one => by
    have no_page_kept := h.apart 0 kept x (one.2 0 (Nat.zero_le _)) (one.2 kept (Nat.le_refl _))
    exact absurd no_page_kept (Nat.ne_of_lt one.1)
  obtain ⟨shelf', slots⟩ := after.withFile free
  have fresh : slot ((Writer.makeWay base kept t).withFile dir name) dir name 0 =
      some t.nodes.size := by
    rw [slots, if_pos rfl, change.relisted.size]
  have contents : ∀ x, ((Writer.makeWay base kept t).withFile dir name).contents? x =
      if x = t.nodes.size then some [] else t.contents? x := by
    intro x
    rw [contents?_withFile listed, change.relisted.size, change.relisted.contents]
  have empty := contents t.nodes.size
  rw [if_pos rfl] at empty
  refine ⟨_, _, by rw [Journal.turned, opened, free], ⟨shelf', ?_, ?_⟩,
    h.newPage fresh empty (fun i => ?_) (fun i x here => ?_) fun n other => ?_⟩
  · rw [fresh, change.relisted.size]
  · rw [change.relisted.size, empty]
  · rw [slots, if_neg (Nat.succ_ne_zero i), change.slots, h.wayMade]
  · obtain ⟨low, within⟩ := (h.there i).mp (by rw [here]; rfl)
    obtain ⟨d, there⟩ := shelf.leads i low x here
    have ne := Nat.ne_of_lt (lt_of_contents there)
    exact ⟨ne, by rw [contents, if_neg ne]⟩
  · rw [entry?_withFile listed, change.others n other, if_neg (show n ≠ name from other 0),
      Option.or_none]

/-- A line goes to the end of the latest page. -/
theorem Filed.extended (h : Filed kept dir name (page :: older) t)
    (here : slot t dir name 0 = some x) (there : t.contents? x = some d) (line : Bytes) :
    Filed kept dir name ((page ++ [line]) :: older) (t.extended x line) where
  there i := by
    rw [slot_extended there]
    exact h.there i
  held i y found := by
    rw [slot_extended there] at found
    cases i with
    | zero =>
      cases here.symm.trans found
      have same := h.held 0 x here
      rw [there] at same
      cases same
      rw [contents?_extended there]
      simp
    | succ i =>
      have other : y ≠ x := by
        rintro rfl
        cases h.apart 0 (i + 1) y here found
      rw [contents?_extended_ne there other]
      exact h.held (i + 1) y found
  apart i j y := by
    rw [slot_extended there]
    exact h.apart i j y
  others n other := by
    rw [entry?_extended there]
    exact h.others n other

theorem Filed.latest (h : Filed kept dir name (page :: older) t)
    (isOpen : Open t base kept dir name x d) : d = page.flatten := by
  have same := h.held 0 x isOpen.here
  rw [isOpen.there] at same
  exact Option.some.inj same

theorem Filed.recorded (h : Filed c.maxRotatedFiles dir name (page :: older) v.tree)
    (isOpen : Open v.tree c.path c.maxRotatedFiles dir name x d) (line : Bytes) :
    Filed c.maxRotatedFiles dir name (addLine c.maxSizeBytes (page :: older) line)
      (recorded c dir name v line).tree := by
  rw [recorded_of_open isOpen, addLine, h.latest isOpen]
  split
  · obtain ⟨u, y, turn, open_after, filed⟩ := h.turned isOpen.shelf
    rw [turn]
    exact filed.extended open_after.here open_after.there line
  · exact h.extended isOpen.here isOpen.there line

theorem Live.isFull (h : Live c dir name s w k v)
    (filed : Filed c.maxRotatedFiles dir name (page :: older) v.tree) (size : Nat) :
    w.isFull size = decide (c.maxSizeBytes < page.flatten.length + size) := by
  obtain ⟨d, isOpen, count⟩ := h.isOpen
  have counted : w.bytesWritten = page.flatten.length := by
    rcases count with counted | ⟨some_kept, all⟩
    · rw [counted, filed.latest isOpen]
    · have := filed.apart 0 1 k.file (all 0 (by omega)) (all 1 (by omega))
      omega
  rw [Writer.isFull, h.config, h.level, counted, Level.usesFile, Bool.and_true]

theorem Live.obey_pages (h : Live c dir name s w k v)
    (filed : Filed c.maxRotatedFiles dir name pages v.tree) (some_page : pages ≠ []) (o : Order) :
    ∃ s' w' k' v' pages', w.obey s o = (s', w') ∧ Live c dir name s' w' k' v' ∧
      pages' = o.line?.toList.foldl (addLine c.maxSizeBytes) pages ∧ pages' ≠ [] ∧
      Filed c.maxRotatedFiles dir name pages' v'.tree ∧
      pages'.length =
        pages.length + if o.line?.any fun line => w.isFull line.length then 1 else 0 := by
  obtain ⟨page, older, rfl⟩ := List.exists_cons_of_ne_nil some_page
  obtain ⟨s', w', k', obeyed, after⟩ := h.obey o
  refine ⟨s', w', k', _, _, obeyed, after, rfl, ?_⟩
  cases taken : o.line? with
  | none => exact ⟨some_page, filed, rfl⟩
  | some line =>
    obtain ⟨d, isOpen, -⟩ := h.isOpen
    refine ⟨addLine_ne_nil c.maxSizeBytes (page :: older) line, filed.recorded isOpen line, ?_⟩
    simp only [Option.any_some, h.isFull filed, decide_eq_true_eq, Option.toList_some,
      List.foldl_cons, List.foldl_nil, addLine]
    split <;> rfl

theorem Live.obeyAll_pages (h : Live c dir name s w k v)
    (filed : Filed c.maxRotatedFiles dir name pages v.tree) (some_page : pages ≠ [])
    (orders : List Order) :
    ∃ s' w' k' v' pages', w.obeyAll s orders = (s', w') ∧ Live c dir name s' w' k' v' ∧
      pages' = (linesOf orders).foldl (addLine c.maxSizeBytes) pages ∧ pages' ≠ [] ∧
      Filed c.maxRotatedFiles dir name pages' v'.tree ∧
      pages'.length = pages.length + rotations s w orders := by
  induction orders generalizing s w k v pages with
  | nil => exact ⟨s, w, k, v, pages, rfl, h, rfl, some_page, filed, rfl⟩
  | cons o orders ih =>
    obtain ⟨s₁, w₁, k₁, v₁, pages₁, obeyed, live, added, more, filed₁, count⟩ :=
      h.obey_pages filed some_page o
    obtain ⟨s₂, w₂, k₂, v₂, pages₂, rest, live₂, added₂, more₂, filed₂, count₂⟩ :=
      ih live filed₁ more
    refine ⟨s₂, w₂, k₂, v₂, pages₂, ?_, live₂, ?_, more₂, filed₂, ?_⟩
    · rw [Writer.obeyAll_cons, obeyed]
      exact rest
    · rw [linesOf_cons, List.foldl_append, ← added]
      exact added₂
    · rw [rotations, obeyed, count₂, count, Nat.add_assoc]

/-- What is held where a file is named, if there is one. -/
def heldAt (t : FileTree) (p : Path) : Bytes :=
  match t.lookup p with
  | some (.ok c) => c
  | _ => []

/-- What the log and so many older parts of it hold, one after the other, the oldest first. -/
def joined (t : FileTree) (base : Path) : Nat → Bytes
  | 0 => heldAt t base
  | i + 1 => heldAt t (logPath base (i + 1)) ++ joined t base i

theorem Filed.heldAt (h : Filed kept dir name pages t) (shelf : Shelf t base kept dir name)
    {i : Nat} (low : i ≤ kept) :
    heldAt t (logPath base i) = pages[i]?.toList.flatten.flatten := by
  rw [Journal.heldAt, h.lookup shelf low]
  cases pages[i]? with
  | none => rfl
  | some page => simp

theorem Filed.joined (h : Filed kept dir name pages t) (shelf : Shelf t base kept dir name)
    {i : Nat} (low : i ≤ kept) :
    joined t base i = (pages.take (i + 1)).reverse.flatten.flatten := by
  induction i with
  | zero =>
    have first := h.heldAt shelf low
    rw [Journal.joined, show Journal.heldAt t base = _ from first]
    cases pages <;> simp
  | succ i ih =>
    rw [Journal.joined, h.heldAt shelf low, ih (by omega), List.take_add_one (i := i + 1)]
    cases pages[i + 1]? <;> simp

/-- A log that is opened in an empty directory has one page, with nothing on it. -/
theorem filed_of_empty (shelf : Shelf t base kept dir name) (empty : t.entriesOf dir = []) :
    Filed kept dir name [[]] (opened t dir name).1 := by
  have nothing : ∀ n, t.entry? dir n = none := by
    intro n
    rw [FileTree.entry?, empty]
    rfl
  obtain ⟨parent, es, listed⟩ := shelf.isOpen
  obtain ⟨-, slots⟩ := shelf.withFile (nothing (logName name 0))
  rw [opened, show slot t dir name 0 = none from nothing _]
  have only : ∀ i x, slot (t.withFile dir name) dir name i = some x → i = 0 ∧ x = t.nodes.size := by
    intro i x here
    rw [slots] at here
    split at here
    · rename_i zero
      exact ⟨zero, (Option.some.inj here).symm⟩
    · cases (nothing _).symm.trans here
  refine ⟨fun i => ⟨fun found => ?_, ?_⟩, fun i x here => ?_, fun i j x one other => ?_,
    fun n other => ?_⟩
  · obtain ⟨x, here⟩ := Option.isSome_iff_exists.mp found
    rw [(only i x here).1]
    exact ⟨Nat.zero_le _, Nat.one_pos⟩
  · rintro ⟨-, first⟩
    rw [slots, if_pos (Nat.lt_one_iff.mp first)]
    rfl
  · obtain ⟨rfl, rfl⟩ := only i x here
    rw [contents?_withFile listed, if_pos rfl]
    rfl
  · rw [(only i x one).1, (only j x other).1]
  · rw [entry?_withFile listed, nothing, if_neg (show n ≠ name from other 0)]
    rfl

/-- What a log leaves on disk of its lines: the latest pages, one for each name, and nothing else.
-/
structure Shelved (c : Config) (dir : NodeId) (name : Bytes) (turns : Nat) (lines : List Bytes)
    (t : FileTree) (dropped : List Bytes) (pages : List (List Bytes)) : Prop where
  number : pages.length = min c.maxRotatedFiles turns + 1
  names : ∀ n, n ∈ (t.entriesOf dir).map Prod.fst ↔
    ∃ i ≤ min c.maxRotatedFiles turns, n = logName name i
  files : ∀ i page, pages[i]? = some page →
    t.lookup (logPath c.path i) = some (.ok page.flatten) ∧ Fits c.maxSizeBytes page
  joined : joined t c.path (min c.maxRotatedFiles turns) = pages.reverse.flatten.flatten
  whole : lines = dropped ++ pages.reverse.flatten
  complete : turns ≤ c.maxRotatedFiles → dropped = []

theorem Filed.shelved {turns : Nat} {lines : List Bytes}
    (h : Filed c.maxRotatedFiles dir name pages t)
    (shelf : Shelf t c.path c.maxRotatedFiles dir name) (count : pages.length = turns + 1)
    (whole : lines = pages.reverse.flatten) (fits : ∀ page ∈ pages, Fits c.maxSizeBytes page) :
    Shelved c dir name turns lines t (pages.drop (c.maxRotatedFiles + 1)).reverse.flatten
      (pages.take (c.maxRotatedFiles + 1)) := by
  have low : ∀ i, i ≤ min c.maxRotatedFiles turns ↔ i ≤ c.maxRotatedFiles ∧ i < pages.length := by
    omega
  refine ⟨?_, fun n => ?_, fun i page there => ?_, ?_, ?_, fun few => ?_⟩
  · rw [List.length_take]
    omega
  · rw [← entry?_isSome_iff]
    constructor
    · intro found
      by_contra other
      have named : ∀ i, n ≠ logName name i := by
        rintro i rfl
        exact other ⟨i, (low i).mpr ((h.there i).mp found), rfl⟩
      rw [h.others n named] at found
      cases found
    · rintro ⟨i, within, rfl⟩
      exact (h.there i).mpr ((low i).mp within)
  · have within : i < c.maxRotatedFiles + 1 := by
      by_contra out
      rw [List.getElem?_take, if_neg out] at there
      cases there
    rw [List.getElem?_take, if_pos within] at there
    refine ⟨?_, fits page (List.mem_of_getElem? there)⟩
    rw [h.lookup shelf (by omega), there]
    rfl
  · rw [h.joined shelf (Nat.min_le_left _ _)]
    by_cases many : c.maxRotatedFiles ≤ turns
    · rw [Nat.min_eq_left many]
    · rw [Nat.min_eq_right (by omega), List.take_of_length_le (by omega),
        List.take_of_length_le (by omega)]
  · rw [whole, ← List.flatten_append, ← List.reverse_append, List.take_append_drop]
  · rw [List.drop_of_length_le (by omega)]
    rfl

/-- One more line goes to the end of what a log holds, and nothing goes away for it but the oldest
part, when the log turns to a new page and has as many older parts as are kept. -/
structure OneMore (base : Path) (kept : Nat) (full : Bool) (line : Bytes) (t u : FileTree) : Prop
    where
  keeps : full = false ∨ t.lookup (logPath base kept) = none →
    joined u base kept = joined t base kept ++ line
  drops : full = true → ∀ oldest, t.lookup (logPath base kept) = some (.ok oldest) →
    ∃ rest, joined t base kept = oldest ++ rest ∧ joined u base kept = rest ++ line

theorem Filed.oneMore {most : Nat} {u : FileTree} (h : Filed kept dir name (page :: older) t)
    (shelf : Shelf t base kept dir name)
    (after : Filed kept dir name (addLine most (page :: older) line) u)
    (shelf' : Shelf u base kept dir name) :
    OneMore base kept (decide (most < page.flatten.length + line.length)) line t u := by
  have last : (page :: older).take (kept + 1) =
      (page :: older).take kept ++ (page :: older)[kept]?.toList := List.take_add_one
  have oldest := h.lookup shelf (Nat.le_refl kept)
  rw [addLine] at after
  constructor
  · intro stays
    rw [h.joined shelf (Nat.le_refl _), after.joined shelf' (Nat.le_refl _)]
    split
    · rename_i full
      rcases stays with room | missing
      · exact absurd full (of_decide_eq_false room)
      · rw [missing, eq_comm, Option.map_eq_none_iff] at oldest
        rw [last, oldest]
        simp
    · simp
  · intro full bytes there
    rw [decide_eq_true_eq] at full
    rw [if_pos full] at after
    rw [there, eq_comm, Option.map_eq_some_iff] at oldest
    obtain ⟨p, found, same⟩ := oldest
    cases same
    refine ⟨((page :: older).take kept).reverse.flatten.flatten, ?_, ?_⟩
    · rw [h.joined shelf (Nat.le_refl _), last, found]
      simp
    · rw [after.joined shelf' (Nat.le_refl _)]
      simp

end

/-- The tree once all that a writer was given is on disk. -/
def Writer.onDisk (c : Config) (s : Scene) (x : Session) : FileTree :=
  let (s, w) := Writer.atWork c [] s x
  (w.flush s).1.tree

section

variable {c : Config} {s : Scene} {t : FileTree} {dir : NodeId} {name : Bytes}

/-- A log in a directory of its own keeps its latest lines, page by page, and drops a page only for
a new one. -/
theorem log_keeps_latest_pages (made : parentsMade s.tree c.path = (t, .ok ()))
    (shelf : Shelf t c.path c.maxRotatedFiles dir name) (empty : t.entriesOf dir = [])
    (began : Nat) (orders : List Order) :
    (∃ dropped pages, Shelved c dir name
      (rotations (Writer.start s c began).1 (Writer.start s c began).2 orders) (linesOf orders)
      (Writer.onDisk c s ⟨began, orders⟩) dropped pages) ∧
    ∀ now e, OneMore c.path c.maxRotatedFiles
      ((Writer.atWork c [] s ⟨began, orders⟩).2.isFull (Text.utf8 e.line).length) (Text.utf8 e.line)
      (Writer.onDisk c s ⟨began, orders⟩)
      (Writer.onDisk c s ⟨began, orders ++ [.entry now e]⟩) := by
  obtain ⟨w, k, started, live⟩ := Live.start made shelf began
  obtain ⟨s₁, w₁, k₁, v₁, pages, obeyed, live₁, added, some_page, filed, count⟩ :=
    live.obeyAll_pages (filed_of_empty shelf empty) (List.cons_ne_nil _ _) orders
  obtain ⟨d, isOpen, -⟩ := live₁.isOpen
  have worked : Writer.atWork c [] s ⟨began, orders⟩ = (s₁, w₁) := by
    simp only [Writer.atWork, started, obeyed]
  have on_disk : Writer.onDisk c s ⟨began, orders⟩ = v₁.tree := by
    simp only [Writer.onDisk, worked, live₁.flush.1]
  rw [on_disk, worked, started]
  refine ⟨⟨_, _, filed.shelved isOpen.shelf (count.trans (Nat.add_comm _ _)) ?_ ?_⟩,
    fun now e => ?_⟩
  · rw [added, reverse_flatten_addLines]
    rfl
  · rw [added]
    exact fits_addLines (List.forall_mem_singleton.mpr (.inl (Nat.zero_le _))) _
  · obtain ⟨page, older, rfl⟩ := List.exists_cons_of_ne_nil some_page
    obtain ⟨s₂, w₂, k₂, v₂, pages₂, wrote, live₂, more, -, filed₂, -⟩ :=
      live₁.obey_pages filed some_page (.entry now e)
    obtain ⟨d₂, isOpen₂, -⟩ := live₂.isOpen
    have on_disk₂ : Writer.onDisk c s ⟨began, orders ++ [.entry now e]⟩ = v₂.tree := by
      simp only [Writer.onDisk, Writer.atWork, started, Writer.obeyAll_append, obeyed]
      rw [show w₁.obeyAll s₁ [.entry now e] = (s₂, w₂) from wrote]
      simp only [live₂.flush.1]
    rw [on_disk₂, live₁.isFull filed]
    rw [more] at filed₂
    exact filed.oneMore isOpen.shelf filed₂ isOpen₂.shelf

theorem two_entries_in_an_empty_directory :
    parentsMade emptyPlace smallLog.path = (emptyPlace, .ok ()) ∧
      Shelf emptyPlace smallLog.path smallLog.maxRotatedFiles 0 [108] ∧
      emptyPlace.entriesOf 0 = [] ∧
      ∃ dropped pages, Shelved smallLog 0 [108]
        (rotations (Writer.start ⟨emptyPlace, ""⟩ smallLog 0).1
          (Writer.start ⟨emptyPlace, ""⟩ smallLog 0).2 [.entry 0 shortEntry, .entry 1 shortEntry])
        (linesOf [.entry 0 shortEntry, .entry 1 shortEntry])
        (Writer.onDisk smallLog ⟨emptyPlace, ""⟩ ⟨0, [.entry 0 shortEntry, .entry 1 shortEntry]⟩)
        dropped pages :=
  have shelf := shelf_smallLog emptyPlace ⟨_, _, rfl⟩ fun _ _ _ here => by cases here
  ⟨shelf.parentsMade, shelf, rfl,
    (log_keeps_latest_pages (s := ⟨emptyPlace, ""⟩) shelf.parentsMade shelf rfl 0 _).1⟩

end

end MountProbe.Journal
