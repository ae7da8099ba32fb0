namespace IndexBasket

/-! Times of day as text, from the seconds since the first of January 1970. -/

namespace Moment

/-- The year, the month and the day of a day that is counted from the first of January
1970. Years begin in March here, so that a leap day is the last of its year. -/
def date (day : Nat) : Nat × Nat × Nat :=
  let counted := day + 719468
  let era := counted / 146097
  let ofEra := counted % 146097
  let year := (ofEra - ofEra / 1460 + ofEra / 36524 - ofEra / 146096) / 365
  let ofYear := ofEra - (365 * year + year / 4 - year / 100)
  let month := (5 * ofYear + 2) / 153
  let date := ofYear - (153 * month + 2) / 5 + 1
  if month < 10 then (era * 400 + year, month + 3, date) else (era * 400 + year + 1, month - 9, date)

def digits (width n : Nat) : String :=
  String.ofList ((Nat.toDigits 10 n).leftpad width '0')

/-- A fraction of a second in as many groups of three digits as it needs. -/
def fraction (nanoseconds : Nat) : String :=
  if nanoseconds = 0 then ""
  else if nanoseconds % 1_000_000 = 0 then "." ++ digits 3 (nanoseconds / 1_000_000)
  else if nanoseconds % 1_000 = 0 then "." ++ digits 6 (nanoseconds / 1_000)
  else "." ++ digits 9 nanoseconds

def text (seconds nanoseconds : Nat) : String :=
  let (year, month, day) := date (seconds / 86400)
  let ofDay := seconds % 86400
  digits 4 year ++ "-" ++ digits 2 month ++ "-" ++ digits 2 day ++ "T" ++ digits 2 (ofDay / 3600) ++ ":" ++
    digits 2 (ofDay / 60 % 60) ++ ":" ++ digits 2 (ofDay % 60) ++ fraction nanoseconds ++ "Z"

example : text 951_827_696 500_000_000 = "2000-02-29T12:34:56.500Z" := by decide +kernel

end Moment

end IndexBasket
