import MountProbe.Pattern.Reader
import MountProbe.Proofs.Failing
import MountProbe.Proofs.Pattern.Words

namespace MountProbe.Pattern

structure Level.Ordered (l : Level) : Prop where
  items : ∀ p ∈ l.items, p.expr.Ordered
  choices : ∀ p ∈ l.choices, p.expr.Ordered

theorem Level.ordered_empty : Level.Ordered {} :=
  ⟨by simp, by simp⟩

theorem foldl_ordered (join : Expr → Expr → Expr)
    (joined : ∀ a b, a.Ordered → b.Ordered → (join a b).Ordered) {ps : List Piece} {e : Expr}
    (parts : ∀ p ∈ ps, p.expr.Ordered) (last : e.Ordered) :
    (ps.foldl (fun e q => join q.expr e) e).Ordered := by
  induction ps generalizing e with
  | nil => exact last
  | cons p ps ih =>
    simp only [List.forall_mem_cons] at parts
    exact ih parts.2 (joined _ _ parts.1 last)

theorem sequence_ordered {ps : List Piece} (parts : ∀ p ∈ ps, p.expr.Ordered) :
    (sequence ps).expr.Ordered := by
  unfold sequence
  split
  · trivial
  · exact parts _ List.mem_cons_self
  · simp only [List.forall_mem_cons] at parts
    exact foldl_ordered .seq (fun _ _ first second => ⟨first, second⟩) parts.2 parts.1

theorem choice_ordered {ps : List Piece} (parts : ∀ p ∈ ps, p.expr.Ordered) :
    (choice ps).expr.Ordered := by
  unfold choice
  split
  · trivial
  · exact parts _ List.mem_cons_self
  · simp only [List.forall_mem_cons] at parts
    exact foldl_ordered .alt (fun _ _ first second => ⟨first, second⟩) parts.2 parts.1

theorem Level.Ordered.close {l : Level} (ordered : l.Ordered) : l.close.expr.Ordered := by
  apply choice_ordered
  simp only [List.forall_mem_cons]
  exact ⟨sequence_ordered ordered.items, ordered.choices⟩

theorem Level.Ordered.push {l : Level} (ordered : l.Ordered) {p : Piece}
    (part : p.expr.Ordered) : (l.push p).Ordered := by
  constructor
  · simp only [Level.push, List.forall_mem_cons]
    exact ⟨part, ordered.items⟩
  · exact ordered.choices

theorem Level.Ordered.turn {l : Level} (ordered : l.Ordered) :
    Level.Ordered { items := [], choices := sequence l.items :: l.choices } := by
  constructor
  · simp
  · simp only [List.forall_mem_cons]
    exact ⟨sequence_ordered ordered.items, ordered.choices⟩

theorem Level.Ordered.repeatLast {l m : Level} (ordered : l.Ordered) {least : Nat}
    {most : Option Nat} (bounds : ∀ n, most = some n → least ≤ n)
    (repeated : l.repeatLast least most = .ok m) : m.Ordered := by
  unfold Level.repeatLast at repeated
  split at repeated
  · rename_i p ps items
    have parts := ordered.items
    simp only [items, List.forall_mem_cons] at parts
    split at repeated
    · cases repeated
      constructor
      · simp only [List.forall_mem_cons]
        exact ⟨⟨parts.1, bounds⟩, parts.2⟩
      · exact ordered.choices
    · cases repeated
  · cases repeated

theorem charExpr_ordered {f : Flags} {c : Char} {asByte : Bool} {e : Expr}
    (read : charExpr f c asByte = .ok e) : e.Ordered := by
  unfold charExpr at read
  split at read
  · cases read
  · cases read
    trivial

theorem anyExpr_ordered {f : Flags} {e : Expr} (read : anyExpr f = .ok e) : e.Ordered := by
  unfold anyExpr at read
  split at read
  · cases read
  · split at read
    · cases read
      trivial
    · split at read <;> cases read <;> trivial

theorem atomExpr_ordered {f : Flags} {a : Atom} {e : Expr} (read : atomExpr f a = .ok e) :
    e.Ordered := by
  cases a with
  | char c asByte => exact charExpr_ordered read
  | set s =>
    cases read
    trivial
  | place p =>
    cases read
    trivial

theorem readBounds_ordered {f : Flags} {cs : List Char} {bounds : Nat × Option Nat}
    {rest : List Char} (read : readBounds f cs = .ok (bounds, rest)) :
    ∀ n, bounds.2 = some n → bounds.1 ≤ n := by
  unfold readBounds at read
  obtain ⟨-, read⟩ := ok_of_refusal read
  obtain ⟨⟨least, after⟩, -, read⟩ := bind_eq_ok.mp read
  dsimp only at read
  split at read
  · cases read
  · split at read
    · cases read
      rintro n ⟨⟩
      exact Nat.le_refl _
    · split at read
      · cases read
        rintro n ⟨⟩
      · obtain ⟨⟨most, after⟩, -, read⟩ := bind_eq_ok.mp read
        dsimp only at read
        split at read
        · split at read
          · rename_i bounded
            cases read
            rintro n ⟨⟩
            exact bounded
          · cases read
        · cases read
    · cases read

/-- Whatever is read next, the parts read so far stay ordered. -/
theorem readParts_ordered {fuel : Nat} {f : Flags} {groups : List Group}
    {names : List (List Char)} {level : Level} {cs : List Char} {p : Piece}
    (read : readParts fuel f groups names level cs = .ok p)
    (outer : ∀ g ∈ groups, g.outer.Ordered) (ordered : level.Ordered) : p.expr.Ordered := by
  induction fuel generalizing f groups names level cs with
  | zero => cases read
  | succ fuel ih =>
    have opened : ∀ g ∈ ⟨level, f⟩ :: groups, Level.Ordered g.outer := by
      simp only [List.forall_mem_cons]
      exact ⟨ordered, outer⟩
    have repeated : ∀ {least most rest}, (∀ n, most = some n → least ≤ n) →
        (level.repeatLast least most >>= fun l => readParts fuel f groups names l rest) = .ok p →
        p.expr.Ordered := by
      intro least most rest bounds read
      obtain ⟨l, again, read⟩ := bind_eq_ok.mp read
      exact ih read outer (ordered.repeatLast bounds again)
    unfold readParts at read
    split at read
    -- one case for each character that a part of a pattern can begin with, in the reader's order
    case h_1 => -- the end
      split at read
      · cases read
        exact ordered.close
      · cases read
    case h_2 => -- a group opens
      obtain ⟨⟨opening, rest⟩, -, read⟩ := bind_eq_ok.mp read
      cases opening with
      | flags f' => exact ih read outer (ordered.push trivial)
      | group f' => exact ih read opened Level.ordered_empty
      | named name =>
        dsimp only at read
        split at read
        · cases read
        · exact ih read opened Level.ordered_empty
    case h_3 => -- a group closes
      cases groups with
      | nil => cases read
      | cons g groups =>
        simp only [List.forall_mem_cons] at outer
        exact ih read outer.2 (outer.1.push ordered.close)
    case h_4 => exact ih read outer ordered.turn
    case h_5 => -- a class
      obtain ⟨⟨s, rest⟩, -, read⟩ := bind_eq_ok.mp read
      exact ih read outer (ordered.push trivial)
    case h_6 | h_7 => exact repeated (fun _ _ => Nat.zero_le _) read
    case h_8 => exact repeated (by simp) read
    case h_9 => -- bounds that are written out
      obtain ⟨⟨⟨least, most⟩, rest⟩, bounds, read⟩ := bind_eq_ok.mp read
      exact repeated (readBounds_ordered bounds) read
    case h_10 => -- any character
      obtain ⟨e, any, read⟩ := bind_eq_ok.mp read
      exact ih read outer (ordered.push (anyExpr_ordered any))
    case h_11 | h_12 => exact ih read outer (ordered.push trivial)
    case h_13 => -- an escape
      obtain ⟨⟨atom, rest⟩, -, read⟩ := bind_eq_ok.mp read
      obtain ⟨e, whole, read⟩ := bind_eq_ok.mp read
      exact ih read outer (ordered.push (atomExpr_ordered whole))
    case h_14 => -- a character that stands for itself
      obtain ⟨e, whole, read⟩ := bind_eq_ok.mp read
      exact ih read outer (ordered.push (charExpr_ordered whole))

theorem read_ordered {source : List Char} {e : Expr} (read : Pattern.read source = .ok e) :
    e.Ordered := by
  obtain ⟨p, parts, read⟩ := bind_eq_ok.mp read
  have ordered := readParts_ordered parts (by simp) Level.ordered_empty
  split at read
  · cases read
  · split at read
    · cases read
    · cases read
      exact ordered

theorem isFoundIn_of_read {source : List Char} {e : Expr} (read : Pattern.read source = .ok e)
    (text : List Char) : e.isFoundIn text = true ↔
      ∃ before word after, text = before ++ word ++ after ∧ e.Describes before word after :=
  isFoundIn_iff_describes (read_ordered read) text

end MountProbe.Pattern
