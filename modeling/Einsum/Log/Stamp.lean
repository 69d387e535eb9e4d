/-!
Points in time as text.
-/

namespace Einsum.Log

/-- Year, month and day of a day counted from the first of January 1970. Years are counted from
March on, so that the day a leap year adds comes last. -/
def civil (days : Nat) : Nat × Nat × Nat :=
  let z := days + 719468
  let era := z / 146097
  let dayOfEra := z % 146097
  let yearOfEra := (dayOfEra - dayOfEra / 1460 + dayOfEra / 36524 - dayOfEra / 146096) / 365
  let dayOfYear := dayOfEra - (365 * yearOfEra + yearOfEra / 4 - yearOfEra / 100)
  let shifted := (5 * dayOfYear + 2) / 153
  let day := dayOfYear - (153 * shifted + 2) / 5 + 1
  let month := if shifted < 10 then shifted + 3 else shifted - 9
  let year := yearOfEra + era * 400 + if month ≤ 2 then 1 else 0
  (year, month, day)

def padZeros (width n : Nat) : String := "".pushn '0' (width - (toString n).length) ++ toString n

def stampText (micros : Nat) : String :=
  let seconds := micros / 1000000
  let (year, month, day) := civil (seconds / 86400)
  let rest := seconds % 86400
  let date := s!"{padZeros 4 year}-{padZeros 2 month}-{padZeros 2 day}"
  let time := s!"{padZeros 2 (rest / 3600)}:{padZeros 2 (rest / 60 % 60)}:{padZeros 2 (rest % 60)}"
  s!"{date}T{time}.{padZeros 6 (micros % 1000000)}Z"

end Einsum.Log
