import MountProbe.Mount.Source

namespace MountProbe.Mount.Source

variable {read : Path → Except IoFault Bytes} {bytes : Bytes} {s : Source} {p : Path}

/-- The file that the table is taken from, and its contents. -/
inductive Finds (s : Source) (read : Path → Except IoFault Bytes) : Path → Bytes → Prop where
  | primary {bytes : Bytes} : read s.primary = .ok bytes → Finds s read s.primary bytes
  | secondary {bytes : Bytes} {fault : IoFault} : read s.primary = .error fault →
    fault.isMissing = true → read s.secondary = .ok bytes → Finds s read s.secondary bytes

theorem readText_of_read (contents : read p = .ok bytes) :
    readText read p =
      match Text.decode? bytes with
      | some text => .ok text
      | none => .error .notText := by
  rw [readText, contents]
  rfl

theorem readText_of_error {fault : IoFault} (fails : read p = .error fault) :
    readText read p = .error fault := by
  rw [readText, fails]
  rfl

theorem tableText_of_finds (found : s.Finds read p bytes) :
    s.tableText read =
      match Text.decode? bytes with
      | some text => .ok text
      | none => .error (.io p .notText) := by
  cases found with
  | primary contents =>
    rw [tableText, readText_of_read contents]
    cases Text.decode? bytes <;> rfl
  | secondary fails missing contents =>
    rw [tableText, readText_of_error fails]
    dsimp only
    rw [if_pos missing, readText_of_read contents]
    cases Text.decode? bytes <;> rfl

theorem mounts_of_read (contents : read s.primary = .ok bytes) :
    s.mounts read = s.mounts fun _ => .ok bytes := by
  have same : Finds s (fun _ => .ok bytes) s.primary bytes := .primary rfl
  rw [mounts, mounts, tableText_of_finds (.primary contents), tableText_of_finds same]

end MountProbe.Mount.Source
