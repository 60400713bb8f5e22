import MountProbe.Filter
import MountProbe.Proofs.Pattern.Reading

/-! What the usual filters leave out: the mounts of the kernel's directories and of those where
containers and credentials are kept, and the file systems that hold no files of their own. -/
namespace MountProbe

open Pattern

variable {before word after text : List Char}

/-- The directories of the kernel, below the root. -/
def kernelPlaces : List String :=
  ["dev", "proc", "sys"]

/-- The directories, below the root, in which everything is left out but not they themselves. -/
def keptPlaces : List String :=
  ["run/credentials/", "var/lib/docker/", "var/lib/containers/storage/"]

/-- A directory of the kernel, or something in one of the others that is written in one line. -/
def IsPlace (place : List Char) : Prop :=
  (∃ d ∈ kernelPlaces, place = d.toList) ∨
    ∃ d ∈ keptPlaces, ∃ name, place = d.toList ++ name ∧ name ≠ [] ∧ '\n' ∉ name

/-- Nothing follows, or a slash does. -/
def Ended (rest : List Char) : Prop :=
  rest = [] ∨ ∃ more, rest = '/' :: more

/-- The mount points that the usual filters leave out: such a place, or what goes on below it. -/
def OffLimits (text : List Char) : Prop :=
  ∃ place rest, text = '/' :: (place ++ rest) ∧ IsPlace place ∧ Ended rest

/-- The types that the usual filters leave out. -/
def pseudoTypes : List String :=
  ["autofs", "binfmt_misc", "bpf", "cgroup", "cgroup2", "configfs", "debugfs", "devpts",
    "devtmpfs", "fusectl", "hugetlbfs", "iso9660", "mqueue", "nsfs", "overlay", "proc", "procfs",
    "pstore", "rpc_pipefs", "securityfs", "selinuxfs", "squashfs", "erofs", "sysfs", "tracefs"]

def lineExpr : Expr :=
  .repeated (.set (.compl (.single '\n'))) 1 none

theorem describes_lineExpr : lineExpr.Describes before word after ↔ word ≠ [] ∧ '\n' ∉ word := by
  have members : (∀ c ∈ word, (CharSet.single '\n').compl.contains c.toNat = true) ↔
      '\n' ∉ word := by
    simp only [CharSet.contains, Bool.not_eq_true', Bool.eq_false_iff, ne_eq, contains_single]
    constructor
    · intro others line
      exact others _ line rfl
    · rintro others c member rfl
      exact others member
  simp only [lineExpr, describes_repeated_set, members, Nat.one_le_iff_ne_zero, ne_eq,
    List.length_eq_zero_iff, reduceCtorEq, false_implies, implies_true, true_and]

/-- The places that the usual pattern for mount points names below the root. -/
def placeExpr : Expr :=
  choiceExpr (wordExpr "dev".toList)
    [wordExpr "proc".toList, spelled "run/credentials/".toList lineExpr, wordExpr "sys".toList,
      spelled "var/lib/docker/".toList lineExpr,
      spelled "var/lib/containers/storage/".toList lineExpr]

theorem describes_placeExpr : placeExpr.Describes before word after ↔ IsPlace word := by
  simp only [placeExpr, IsPlace, kernelPlaces, keptPlaces, describes_choiceExpr, List.mem_cons,
    List.not_mem_nil, or_false, exists_eq_or_imp, exists_eq_left, describes_wordExpr,
    describes_spelled, describes_lineExpr]
  apply iff_of_eq
  ac_rfl

def endExpr : Expr :=
  .alt (.place .textEnd) (.set (.single '/'))

theorem describes_endExpr :
    endExpr.Describes before word after ↔ word = [] ∧ after = [] ∨ word = ['/'] := by
  simp only [endExpr, describes_alt, describes_textEnd, describes_set, contains_single,
    exists_eq_right]

def mountPointsExpr : Expr :=
  .seq (.place .textStart) (.seq (.set (.single '/')) (.seq placeExpr endExpr))

theorem read_usualMountPointsExclude :
    Pattern.read CollectorSettings.usualMountPointsExclude.toList = .ok mountPointsExpr := by
  unfold CollectorSettings.usualMountPointsExclude
  rw [String.toList_ofList]
  rfl

theorem mountPointsExpr_found : mountPointsExpr.isFoundIn text = true ↔ OffLimits text := by
  rw [isFoundIn_of_read read_usualMountPointsExclude]
  simp only [mountPointsExpr, describes_seq, describes_textStart, describes_set, contains_single,
    exists_eq_right, describes_placeExpr, describes_endExpr]
  constructor
  · rintro ⟨_, _, after, rfl, _, _, rfl, ⟨rfl, rfl⟩, _, _, rfl, rfl, place, e, rfl, chosen, ended⟩
    refine ⟨place, e ++ after, by simp, chosen, ?_⟩
    rcases ended with ⟨rfl, rfl⟩ | rfl
    · exact .inl rfl
    · exact .inr ⟨after, rfl⟩
  · rintro ⟨place, _, rfl, chosen, rfl | ⟨more, rfl⟩⟩
    · exact ⟨[], '/' :: place, [], by simp, [], _, rfl, ⟨rfl, rfl⟩, ['/'], place, rfl, rfl, place,
        [], by simp, chosen, .inl ⟨rfl, rfl⟩⟩
    · exact ⟨[], '/' :: place ++ ['/'], more, by simp, [], _, rfl, ⟨rfl, rfl⟩, ['/'],
        place ++ ['/'], rfl, rfl, place, ['/'], rfl, chosen, .inr rfl⟩

def groupExpr : Expr :=
  spelled "cgroup".toList (.repeated (.set (.single '2')) 0 (some 1))

theorem describes_groupExpr : groupExpr.Describes before word after ↔
    word = "cgroup".toList ∨ word = "cgroup2".toList := by
  simp only [groupExpr, describes_spelled, describes_repeated_set, contains_single]
  constructor
  · rintro ⟨v, rfl, -, few, members⟩
    cases v with
    | nil => exact .inl rfl
    | cons c cs =>
      cases List.eq_nil_of_length_eq_zero (Nat.le_zero.mp (Nat.le_of_succ_le_succ (few 1 rfl)))
      cases members c List.mem_cons_self
      exact .inr rfl
  · rintro (rfl | rfl)
    · exact ⟨[], rfl, by simp⟩
    · exact ⟨['2'], rfl, by simp⟩

def typeExpr : Expr :=
  choiceExpr (wordExpr "autofs".toList)
    ((["binfmt_misc", "bpf"].map fun w => wordExpr w.toList) ++ groupExpr ::
      ["configfs", "debugfs", "devpts", "devtmpfs", "fusectl", "hugetlbfs", "iso9660", "mqueue",
        "nsfs", "overlay", "proc", "procfs", "pstore", "rpc_pipefs", "securityfs", "selinuxfs",
        "squashfs", "erofs", "sysfs", "tracefs"].map fun w => wordExpr w.toList)

theorem describes_typeExpr :
    typeExpr.Describes before word after ↔ ∃ w ∈ pseudoTypes, word = w.toList := by
  simp only [typeExpr, pseudoTypes, describes_choiceExpr, List.map_cons, List.map_nil,
    List.cons_append, List.nil_append, List.mem_cons, List.not_mem_nil, or_false, exists_eq_or_imp,
    exists_eq_left, describes_wordExpr, describes_groupExpr, or_assoc]

def fsTypesExpr : Expr :=
  .seq (.place .textStart) (.seq typeExpr (.place .textEnd))

set_option maxRecDepth 2000 in
theorem read_usualFsTypesExclude :
    Pattern.read CollectorSettings.usualFsTypesExclude.toList = .ok fsTypesExpr := by
  unfold CollectorSettings.usualFsTypesExclude
  rw [String.toList_append, String.toList_append, String.toList_ofList, String.toList_ofList,
    String.toList_ofList]
  rfl

theorem fsTypesExpr_found {name : String} :
    fsTypesExpr.isFoundIn name.toList = true ↔ name ∈ pseudoTypes := by
  rw [isFoundIn_of_read read_usualFsTypesExclude]
  simp only [fsTypesExpr, describes_seq, describes_textStart, describes_textEnd, describes_typeExpr]
  constructor
  · rintro ⟨_, _, _, whole, _, _, rfl, ⟨rfl, rfl⟩, _, _, rfl, ⟨w, member, rfl⟩, rfl, rfl⟩
    have same : name = w := String.toList_injective (by simpa using whole)
    exact same ▸ member
  · intro member
    exact ⟨[], name.toList, [], (List.append_nil _).symm, [], _, rfl, ⟨rfl, rfl⟩, name.toList, [],
      (List.append_nil _).symm, ⟨name, member, rfl⟩, rfl, rfl⟩

/-- What the usual filters make of a mount. -/
structure LeavesOut (f : MountFilters) (m : Mount.Label) : Prop where
  mountPoint : f.verdict m = .mountPointIgnored ↔ OffLimits m.mountPointText.toList
  fsType : f.verdict m = .fsTypeIgnored ↔
    ¬ OffLimits m.mountPointText.toList ∧ m.fsType ∈ pseudoTypes
  accepted : f.verdict m = .accepted ↔
    ¬ OffLimits m.mountPointText.toList ∧ m.fsType ∉ pseudoTypes

def excluding (e : Expr) : NameFilter where
  exclude := some fun name => e.isFoundIn name.toList
  includeOnly := none

theorem NameFilter.read_of_exclude {exclude : String} {e : Expr} (some : exclude ≠ "")
    (read : Pattern.read exclude.toList = .ok e) :
    NameFilter.read exclude "" = .ok (excluding e) := by
  have pattern : readPattern exclude = .ok (excluding e).exclude := by
    simp only [readPattern, Patterns.compile, String.isEmpty_iff, some, if_false, read]
    rfl
  exact bind_eq_ok.mpr ⟨_, pattern, bind_eq_ok.mpr ⟨none, rfl, rfl⟩⟩

theorem NameFilter.ignores_of_exclude (e : Expr) (name : String) :
    (excluding e).ignores name = e.isFoundIn name.toList := by
  simp [NameFilter.ignores, excluding]

def usualFilters : MountFilters where
  mountPoints := excluding mountPointsExpr
  fsTypes := excluding fsTypesExpr

theorem ofSettings_usual : MountFilters.ofSettings CollectorSettings.usual = .ok usualFilters := by
  have mountPoints := NameFilter.read_of_exclude (by decide) read_usualMountPointsExclude
  have fsTypes := NameFilter.read_of_exclude (by decide) read_usualFsTypesExclude
  exact bind_eq_ok.mpr ⟨_, mountPoints, bind_eq_ok.mpr ⟨_, fsTypes, rfl⟩⟩

theorem usualFilters_leavesOut (m : Mount.Label) : LeavesOut usualFilters m := by
  have place : usualFilters.mountPoints.ignores m.mountPointText = true ↔
      OffLimits m.mountPointText.toList := by
    rw [usualFilters, NameFilter.ignores_of_exclude, mountPointsExpr_found]
  have type : usualFilters.fsTypes.ignores m.fsType = true ↔ m.fsType ∈ pseudoTypes := by
    rw [usualFilters, NameFilter.ignores_of_exclude, fsTypesExpr_found]
  by_cases off : OffLimits m.mountPointText.toList
  · have verdict : usualFilters.verdict m = .mountPointIgnored := if_pos (place.mpr off)
    constructor <;> simp [verdict, off]
  · by_cases pseudo : m.fsType ∈ pseudoTypes
    · have verdict : usualFilters.verdict m = .fsTypeIgnored :=
        (if_neg (mt place.mp off)).trans (if_pos (type.mpr pseudo))
      constructor <;> simp [verdict, off, pseudo]
    · have verdict : usualFilters.verdict m = .accepted :=
        (if_neg (mt place.mp off)).trans (if_neg (mt type.mp pseudo))
      constructor <;> simp [verdict, off, pseudo]

/-- The usual filters can be read, and leave out a mount at a place that is off limits, and else a
mount of one of the types without files of their own. -/
theorem usual_filters_leave_out : ∃ f, MountFilters.ofSettings CollectorSettings.usual = .ok f ∧
    ∀ m, LeavesOut f m :=
  ⟨usualFilters, ofSettings_usual, usualFilters_leavesOut⟩

/-- A mount point that goes on with a line feed alone is looked at, though it stands in one of the
directories. -/
theorem line_feed_accepted : ∃ f, MountFilters.ofSettings CollectorSettings.usual = .ok f ∧
    f.verdict { device := "d", mountPoint := .ofString "/run/credentials/\n", fsType := "ext4" } =
      .accepted :=
  ⟨usualFilters, ofSettings_usual, by decide +kernel⟩

end MountProbe
