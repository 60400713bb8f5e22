namespace MountProbe.Journal

/-- Year, month and day, so many days after the first of January 1970. Years are counted from
March, so that the day that some years have more is the last one; four hundred years always have
146097 days. -/
def civilDate (days : Nat) : Nat × Nat × Nat :=
  let shifted := days + 719468
  let era := shifted / 146097
  let dayOfEra := shifted % 146097
  let yearOfEra := (dayOfEra - dayOfEra / 1460 + dayOfEra / 36524 - dayOfEra / 146096) / 365
  let dayOfYear := dayOfEra - (365 * yearOfEra + yearOfEra / 4 - yearOfEra / 100)
  let monthFromMarch := (5 * dayOfYear + 2) / 153
  let day := dayOfYear - (153 * monthFromMarch + 2) / 5 + 1
  let month := if monthFromMarch < 10 then monthFromMarch + 3 else monthFromMarch - 9
  let year := yearOfEra + era * 400
  (if month ≤ 2 then year + 1 else year, month, day)

def padded (width n : Nat) : String :=
  let digits := Nat.toDigits 10 n
  String.ofList (List.replicate (width - digits.length) '0' ++ digits)

/-- The time so many milliseconds after the start of 1970. -/
def stamp (ms : Nat) : String :=
  let seconds := ms / 1000
  let (year, month, day) := civilDate (seconds / 86400)
  let ofDay := seconds % 86400
  padded 4 year ++ "-" ++ padded 2 month ++ "-" ++ padded 2 day ++ "T" ++
    padded 2 (ofDay / 3600) ++ ":" ++ padded 2 (ofDay / 60 % 60) ++ ":" ++ padded 2 (ofDay % 60) ++
    "." ++ padded 3 (ms % 1000) ++ "Z"

example : stamp 0 = "1970-01-01T00:00:00.000Z" := by decide +kernel

example : stamp 951782399999 = "2000-02-28T23:59:59.999Z" := by decide +kernel

example : stamp 951782400000 = "2000-02-29T00:00:00.000Z" := by decide +kernel

end MountProbe.Journal
