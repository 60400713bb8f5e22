import MountProbe.Mount.Source
import MountProbe.Proofs.Path.Below
import MountProbe.Stat.Counts
import Mathlib.Data.List.Forall2

/-! Mount points under another root. A mount point that the host names is looked up below the
directory in which the host's root is mounted, and naming and looking up undo each other, so that the
system is asked for the place that the table lists. -/
namespace MountProbe.Mount.HostRoot

open MountProbe.Path (IsBelow stepsOf)

section

variable {r : HostRoot} {m : Path}

theorem below?_slash (absolute : m.isAbsolute = true) :
    ∃ rest, m.below? slash = some rest ∧ rest.isAbsolute = false ∧
      m.components = .root :: stepsOf rest.raw := by
  have begun : m.IsBelow slash := by
    obtain ⟨raw⟩ := m
    obtain ⟨b, spelled⟩ := List.head?_eq_some_iff.mp (by simpa [Path.isAbsolute] using absolute)
    rw [spelled]
    exact ⟨stepsOf b, (Path.components_slash b).symm⟩
  exact Path.below?_of_isBelow rfl begun

theorem isAbsolute_of_isBelow_slash (begun : m.IsBelow slash) : m.isAbsolute = true := by
  obtain ⟨later, steps⟩ := begun
  exact Path.isAbsolute_of_components steps.symm

variable (named : r.directory.isEmpty = false) (apart : r.isPlain = false)

include named apart

theorem lookup_of_absolute (absolute : m.isAbsolute = true) : ∃ later,
    m.components = .root :: later ∧ (r.lookup m).components = r.directory.components ++ later := by
  obtain ⟨rest, left, relative, steps⟩ := below?_slash absolute
  refine ⟨_, steps, ?_⟩
  rw [lookup, if_neg (by simp [apart]), left]
  exact Path.components_join named relative

theorem lookup_isBelow (m : Path) : (r.lookup m).IsBelow r.directory := by
  cases absolute : m.isAbsolute with
  | true =>
    obtain ⟨later, -, steps⟩ := lookup_of_absolute named apart absolute
    rw [IsBelow, steps]
    exact List.prefix_append _ later
  | false =>
    have outside : m.below? slash = none := by
      apply Path.below?_of_not_isBelow
      intro begun
      rw [isAbsolute_of_isBelow_slash begun] at absolute
      cases absolute
    rw [lookup, if_neg (by simp [apart]), outside, Option.getD_none, IsBelow,
      Path.components_join named absolute]
    exact List.prefix_append _ _

theorem hostName_of_isBelow (below : m.IsBelow r.directory) : ∃ later,
    m.components = r.directory.components ++ later ∧ (r.hostName m).components = .root :: later := by
  obtain ⟨rest, left, relative, steps⟩ := Path.below?_of_isBelow named below
  refine ⟨_, steps, ?_⟩
  rw [hostName, if_neg (by simp [apart]), left]
  exact Path.components_join rfl relative

theorem hostName_lookup (absolute : m.isAbsolute = true) :
    (r.hostName (r.lookup m)).same m = true := by
  obtain ⟨later, steps, there⟩ := lookup_of_absolute named apart absolute
  obtain ⟨later', there', name⟩ :=
    hostName_of_isBelow named apart (lookup_isBelow named apart m)
  rw [there] at there'
  obtain rfl := List.append_cancel_left there'
  exact Path.same_iff.mpr (name.trans steps.symm)

theorem lookup_hostName (below : m.IsBelow r.directory) :
    (r.lookup (r.hostName m)).same m = true := by
  obtain ⟨later, steps, name⟩ := hostName_of_isBelow named apart below
  obtain ⟨later', name', there⟩ :=
    lookup_of_absolute named apart (Path.isAbsolute_of_components name)
  rw [name] at name'
  cases name'
  exact Path.same_iff.mpr (there.trans steps.symm)

omit named in
theorem hostName_of_not_isBelow (outside : ¬ m.IsBelow r.directory) : r.hostName m = m := by
  rw [hostName, if_neg (by simp [apart]), Path.below?_of_not_isBelow outside]

/-- The system is asked for a place, unless the name of the place has a zero byte. -/
def Asks (r : HostRoot) (mountPoint place : Path) : Prop :=
  ∀ system, (0 ∈ place.raw → (Stat.ask r system mountPoint).2 = none) ∧
    (0 ∉ place.raw →
      ∃ target, (Stat.ask r system mountPoint).2 = some target ∧ target.same place = true)

omit named apart in
theorem asks_of_same {place : Path} (same : (r.lookup m).same place = true) :
    r.Asks m place := by
  intro system
  have zero : 0 ∈ (r.lookup m).raw ↔ 0 ∈ place.raw :=
    Path.mem_raw_of_same (by decide) (by decide) same
  constructor
  · intro there
    rw [Stat.ask, if_pos (List.contains_iff_mem.mpr (zero.mpr there))]
  · intro absent
    refine ⟨r.lookup m, ?_, same⟩
    rw [Stat.ask, if_neg fun there => absent (zero.mp (List.contains_iff_mem.mp there))]
    cases system (r.lookup m) <;> rfl

omit named apart in
theorem mounts_of_rows {procPath : Path} {read : Path → Except IoFault Bytes} {text : List Char}
    {rows : List Label} (found : (Source.mk procPath r).tableText read = .ok text)
    (rows_read : (Table.read text).mounts = .ok rows) :
    ((Source.mk procPath r).mounts read).mounts =
      .ok (rows.map fun row => { row with mountPoint := r.hostName row.mountPoint }) := by
  simp only [Source.mounts, found, rows_read, Except.map]

/-- Looking up leads below the root's directory, looking up and naming undo each other, and each row
of the table below that directory is asked for at the very place that the row lists. -/
theorem lookups_and_names :
    (∀ m, (r.lookup m).IsBelow r.directory) ∧
      (∀ m : Path, m.isAbsolute = true → (r.hostName (r.lookup m)).same m = true) ∧
      (∀ m : Path, m.IsBelow r.directory → (r.lookup (r.hostName m)).same m = true) ∧
      (∀ m : Path, ¬ m.IsBelow r.directory → r.hostName m = m) ∧
      ∀ procPath read text rows, (Source.mk procPath r).tableText read = .ok text →
        (Table.read text).mounts = .ok rows →
        ∃ ms, ((Source.mk procPath r).mounts read).mounts = .ok ms ∧
          List.Forall₂ (fun row m => row.mountPoint.IsBelow r.directory →
            r.Asks m.mountPoint row.mountPoint) rows ms := by
  refine ⟨lookup_isBelow named apart, fun m => hostName_lookup named apart,
    fun m => lookup_hostName named apart, fun m => hostName_of_not_isBelow apart, ?_⟩
  intro procPath read text rows found rows_read
  refine ⟨_, mounts_of_rows found rows_read, ?_⟩
  rw [List.forall₂_map_right_iff, List.forall₂_same]
  intro row _ below
  exact asks_of_same (lookup_hostName named apart below)

end

/-- The directory /host: a place below it comes back, and /hostile is not below it. -/
theorem lookups_and_names_of_host : ∃ r : HostRoot, r.directory = ⟨[0x2F, 0x68, 0x6F, 0x73, 0x74]⟩ ∧
    r.directory.isEmpty = false ∧ r.isPlain = false ∧
    (r.hostName (r.lookup ⟨[0x2F, 0x2F, 0x61, 0x2F, 0x2E]⟩)).same ⟨[0x2F, 0x61]⟩ = true ∧
    (r.lookup (r.hostName ⟨[0x2F, 0x68, 0x6F, 0x73, 0x74, 0x2F, 0x2F, 0x61]⟩)).same
      ⟨[0x2F, 0x68, 0x6F, 0x73, 0x74, 0x2F, 0x61]⟩ = true ∧
    r.hostName ⟨[0x2F, 0x68, 0x6F, 0x73, 0x74, 0x69, 0x6C, 0x65]⟩ =
      ⟨[0x2F, 0x68, 0x6F, 0x73, 0x74, 0x69, 0x6C, 0x65]⟩ := by
  let r : HostRoot := ⟨⟨[0x2F, 0x68, 0x6F, 0x73, 0x74]⟩⟩
  obtain ⟨-, names, lookups, outside, -⟩ :=
    lookups_and_names (r := r) (by decide) (by decide)
  refine ⟨r, rfl, by decide, by decide, ?_, ?_, ?_⟩
  · exact Path.same_iff.mpr ((Path.same_iff.mp (names _ (by decide))).trans (by decide))
  · exact Path.same_iff.mpr ((Path.same_iff.mp (lookups _ (by unfold IsBelow; decide))).trans (by decide))
  · exact outside _ (by unfold IsBelow; decide)

end MountProbe.Mount.HostRoot
