import MountProbe.Proofs.Failing
import MountProbe.Proofs.Path.Text
import MountProbe.Proofs.Text.Cutting
import MountProbe.Settings.Load

namespace MountProbe.Settings

variable {env : Environment}

/-- The variable is set to this text, which is not blank. -/
def Environment.Gives (env : Environment) (name raw : String) : Prop :=
  env name = some (Text.utf8 raw.toList) ∧ Text.isBlankText raw.toList = false

theorem text?_eq_some {name raw : String} : env.text? name = some raw ↔ env.Gives name raw := by
  unfold Environment.text? Environment.Gives
  simp only [bind, Option.bind_eq_some_iff]
  constructor
  · rintro ⟨bytes, set, s, spelled, visible⟩
    have whole := (Path.text?_eq_some (p := ⟨bytes⟩)).mp spelled
    have bytes_eq : bytes = Text.utf8 s.toList := congrArg Path.raw whole
    split at visible
    · cases visible
    · rename_i not_blank
      cases visible
      exact ⟨bytes_eq ▸ set, by simpa using not_blank⟩
  · rintro ⟨set, visible⟩
    have spelled := (Path.text?_eq_some (p := ⟨Text.utf8 raw.toList⟩)).mpr rfl
    exact ⟨_, set, raw, spelled, by simp [visible]⟩

theorem text?_eq_none {name : String} :
    env.text? name = none ↔ ∀ raw, ¬ env.Gives name raw := by
  constructor
  · intro unset raw gives
    cases unset.symm.trans (text?_eq_some.mpr gives)
  · intro unset
    cases given : env.text? name with
    | none => rfl
    | some raw => exact absurd (text?_eq_some.mp given) (unset raw)

theorem gives_unique (name raw raw' : String) (given : env.Gives name raw)
    (again : env.Gives name raw') : raw = raw' := by
  have first := text?_eq_some.mpr given
  have second := text?_eq_some.mpr again
  exact Option.some.inj (first.symm.trans second)

def Replaces {α : Type} (gives : String → Prop) (means : String → α → Prop) (below a : α) : Prop :=
  (∃ raw, gives raw ∧ means raw a) ∨ (∀ raw, ¬ gives raw) ∧ a = below

/-- A number is read without the blanks around it. -/
def MeansWhole (raw : String) (n : Nat) : Prop :=
  Text.Denotes (Text.trim raw.toList) n ∧ n ≤ Text.maxWord64

def MeansTruth (raw : String) (b : Bool) : Prop :=
  String.ofList (Text.trim raw.toList) = if b then "true" else "false"

/-- A text is taken as it is, with the blanks around it. -/
def MeansText {α : Type} (f : String → α) (raw : String) (a : α) : Prop :=
  a = f raw

theorem readNumeral_eq_ok {raw : String} {n : Nat} :
    Text.readNumeral Text.maxWord64 (String.ofList (Text.trim raw.toList)) = .ok n ↔
      MeansWhole raw n :=
  Text.readNumeral_eq_ok

theorem readTruth_eq_some {raw : String} {b : Bool} :
    Text.readTruth (String.ofList (Text.trim raw.toList)) = some b ↔ MeansTruth raw b := by
  unfold Text.readTruth MeansTruth
  generalize String.ofList (Text.trim raw.toList) = s
  by_cases yes : s = "true"
  · cases b <;> simp [yes]
  · by_cases no : s = "false"
    · cases b <;> simp [no]
    · cases b <;> simp [yes, no]

theorem meansWhole_unique (raw : String) (m n : Nat) (first : MeansWhole raw m)
    (second : MeansWhole raw n) : m = n := by
  have read := readNumeral_eq_ok.mpr first
  have again := readNumeral_eq_ok.mpr second
  exact Except.ok.inj (read.symm.trans again)

theorem meansTruth_unique (raw : String) (a b : Bool) (first : MeansTruth raw a)
    (second : MeansTruth raw b) : a = b := by
  have read := readTruth_eq_some.mpr first
  have again := readTruth_eq_some.mpr second
  exact Option.some.inj (read.symm.trans again)

theorem meansText_unique {α : Type} {f : String → α} (raw : String) (a b : α)
    (first : MeansText f raw a) (second : MeansText f raw b) : a = b :=
  Eq.trans first (Eq.symm second)

/-- A variable whose text has to be read. -/
inductive Variable where
  | whole (name : String)
  | truth (name : String)

def Variable.name : Variable → String
  | whole name | truth name => name

/-- The text is what the variable wants. -/
def Variable.Takes (raw : String) : Variable → Prop
  | whole _ => ∃ n, MeansWhole raw n
  | truth _ => ∃ b, MeansTruth raw b

def Variable.IsBad (env : Environment) (v : Variable) (raw : String) : Prop :=
  env.Gives v.name raw ∧ ¬ v.Takes raw

def Variable.IsFine (env : Environment) (v : Variable) : Prop :=
  ∀ raw, ¬ v.IsBad env raw

/-- The first variable of the list that is bad, with its text. -/
inductive FirstBad (env : Environment) : List Variable → Variable → String → Prop where
  | here {v : Variable} {vs : List Variable} {raw : String} : v.IsBad env raw →
    FirstBad env (v :: vs) v raw
  | later {u v : Variable} {vs : List Variable} {raw : String} : u.IsFine env →
    FirstBad env vs v raw → FirstBad env (u :: vs) v raw

theorem FirstBad.isBad {vs : List Variable} {v : Variable} {raw : String}
    (first : FirstBad env vs v raw) : v ∈ vs ∧ v.IsBad env raw := by
  induction first with
  | here bad => exact ⟨List.mem_cons_self, bad⟩
  | later _ _ ih => exact ⟨List.mem_cons_of_mem _ ih.1, ih.2⟩

/-- The variables that are read, in the order in which that is done. -/
def readVariables : List Variable :=
  [.whole "MOUNTGUARD_MOUNT_TIMEOUT_MS", .whole "MOUNTGUARD_STAT_WORKERS",
    .truth "MOUNTGUARD_JSONL_ENABLED", .truth "MOUNTGUARD_LOG_VERBOSE",
    .whole "MOUNTGUARD_SCRAPE_INTERVAL_MS"]

/-- A reading that fails where the variable is bad, and else gives the value of the layers. -/
def Reads {α : Type} (env : Environment) (v : Variable) (means : String → α → Prop) (below : α)
    (x : Except Failure α) : Prop :=
  (∃ raw message, v.IsBad env raw ∧ x = .error (badValue v.name raw message)) ∨
    v.IsFine env ∧ ∃ a, x = .ok a ∧ Replaces (env.Gives v.name) means below a

theorem reads_of_unset {α : Type} {v : Variable} (means : String → α → Prop) (below : α)
    (unset : env.text? v.name = none) : Reads env v means below (.ok below) := by
  have silent := text?_eq_none.mp unset
  exact .inr ⟨fun raw bad => silent raw bad.1, below, rfl, .inr ⟨silent, rfl⟩⟩

theorem reads_of_taken {α : Type} {v : Variable} {means : String → α → Prop} (below : α)
    {raw : String} {a : α} (given : env.text? v.name = some raw) (takes : v.Takes raw)
    (meant : means raw a) : Reads env v means below (.ok a) := by
  have gives := text?_eq_some.mp given
  refine .inr ⟨?_, a, rfl, .inl ⟨raw, gives, meant⟩⟩
  intro raw' bad
  cases gives_unique _ _ _ bad.1 gives
  exact bad.2 takes

theorem wholeFrom_reads (env : Environment) (name : String) (n : Nat) :
    Reads env (.whole name) MeansWhole n (wholeFrom env name n) := by
  unfold wholeFrom
  cases given : env.text? name with
  | none => exact reads_of_unset _ _ given
  | some raw =>
    dsimp only
    cases read : Text.readNumeral Text.maxWord64 (String.ofList (Text.trim raw.toList)) with
    | error fault =>
      refine .inl ⟨raw, fault.message, ⟨text?_eq_some.mp given, ?_⟩, rfl⟩
      rintro ⟨m, means⟩
      cases read.symm.trans (readNumeral_eq_ok.mpr means)
    | ok m =>
      have means := readNumeral_eq_ok.mp read
      exact reads_of_taken _ given ⟨m, means⟩ means

theorem truthFrom_reads (env : Environment) (name : String) (b : Bool) :
    Reads env (.truth name) MeansTruth b (truthFrom env name b) := by
  unfold truthFrom
  cases given : env.text? name with
  | none => exact reads_of_unset _ _ given
  | some raw =>
    dsimp only
    cases read : Text.readTruth (String.ofList (Text.trim raw.toList)) with
    | none =>
      refine .inl ⟨raw, _, ⟨text?_eq_some.mp given, ?_⟩, rfl⟩
      rintro ⟨c, means⟩
      cases read.symm.trans (readTruth_eq_some.mpr means)
    | some c =>
      have means := readTruth_eq_some.mp read
      exact reads_of_taken _ given ⟨c, means⟩ means

theorem replaces_getD {α : Type} (f : String → α) (env : Environment) (name : String) (a : α) :
    Replaces (env.Gives name) (MeansText f) a (((env.text? name).map f).getD a) := by
  cases given : env.text? name with
  | none => exact .inr ⟨text?_eq_none.mp given, rfl⟩
  | some raw => exact .inl ⟨raw, text?_eq_some.mp given, rfl⟩

theorem Reads.replaces {α : Type} {v : Variable} {means : String → α → Prop} {below a : α}
    (reads : Reads env v means below (.ok a)) : Replaces (env.Gives v.name) means below a := by
  rcases reads with ⟨raw, message, -, refused⟩ | ⟨-, b, read, replaces⟩
  · cases refused
  · cases read
    exact replaces

theorem textFrom_replaces (env : Environment) (name s : String) :
    Replaces (env.Gives name) (MeansText id) s (textFrom env name s) := by
  have replaces := replaces_getD id env name s
  simpa only [textFrom, Option.map_id_fun, id] using replaces

theorem pathFrom_replaces (env : Environment) (name : String) (p : Path) :
    Replaces (env.Gives name) (MeansText Path.ofString) p (pathFrom env name p) :=
  replaces_getD Path.ofString env name p

def ReadsAll {β : Type} (env : Environment) (vs : List Variable) (x : Except Failure β) : Prop :=
  (∃ v raw message, FirstBad env vs v raw ∧ x = .error (badValue v.name raw message)) ∨
    (∀ v ∈ vs, v.IsFine env) ∧ ∃ b, x = .ok b

theorem readsAll_nil {β : Type} (b : β) : ReadsAll env [] (.ok b) :=
  .inr ⟨by simp, b, rfl⟩

theorem Reads.andThen {α β : Type} {v : Variable} {vs : List Variable} {means : String → α → Prop}
    {below : α} {x : Except Failure α} {f : α → Except Failure β}
    (first : Reads env v means below x) (later : ∀ a, ReadsAll env vs (f a)) :
    ReadsAll env (v :: vs) (x >>= f) := by
  rcases first with ⟨raw, message, bad, rfl⟩ | ⟨fine, a, rfl, -⟩
  · exact .inl ⟨v, raw, message, .here bad, rfl⟩
  · rcases later a with ⟨u, raw, message, bad, refused⟩ | ⟨all_fine, b, read⟩
    · exact .inl ⟨u, raw, message, .later fine bad, refused⟩
    · refine .inr ⟨?_, b, read⟩
      simp only [List.forall_mem_cons]
      exact ⟨fine, all_fine⟩

theorem overridden_readsAll (env : Environment) (s : Settings) :
    ReadsAll env readVariables (overridden env s) := by
  apply (wholeFrom_reads env _ _).andThen
  intro timeout
  apply (wholeFrom_reads env _ _).andThen
  intro workers
  apply (truthFrom_reads env _ _).andThen
  intro enabled
  apply (truthFrom_reads env _ _).andThen
  intro verbose
  apply (wholeFrom_reads env _ _).andThen
  intro interval
  exact readsAll_nil _

theorem overridden_of_unset (unset : ∀ name, env.text? name = none) (s : Settings) :
    overridden env s = .ok s := by
  simp only [overridden, wholeFrom, truthFrom, textFrom, pathFrom, unset]
  rfl

end MountProbe.Settings
