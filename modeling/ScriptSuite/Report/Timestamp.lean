/-!
# Time stamps

The time of a report is counted in seconds from the start of the year 1970 and written as a date and
a time of day, in universal time. A year starts in March here while the date is looked for, so that
the day that only leap years have is its last one.
-/

namespace ScriptSuite.Timestamp

/-- A date. -/
structure Date where
  /-- The year. -/
  year : Nat
  /-- The month, from one. -/
  month : Nat
  /-- The day of the month, from one. -/
  day : Nat
deriving DecidableEq, Repr

/-- The days in 400 years, after which the calendar repeats. -/
def eraDays : Nat := 146097

/-- The days from the first of March of the year zero to the start of the year 1970. -/
def daysBefore1970 : Nat := 719468

/-- The date that lies some days behind the start of the year 1970. -/
def Date.ofDays (days : Nat) : Date :=
  let n := days + daysBefore1970
  let inEra := n % eraDays
  let yearOfEra := (inEra - inEra / 1460 + inEra / 36524 - inEra / 146096) / 365
  let dayOfYear := inEra - (365 * yearOfEra + yearOfEra / 4 - yearOfEra / 100)
  let fromMarch := (5 * dayOfYear + 2) / 153
  let month := if fromMarch < 10 then fromMarch + 3 else fromMarch - 9
  { year := 400 * (n / eraDays) + yearOfEra + (if month ≤ 2 then 1 else 0)
    month
    day := dayOfYear - (153 * fromMarch + 2) / 5 + 1 }

/-- A number with zeros in front, in at least `width` places. -/
def padded (width n : Nat) : String :=
  let digits := toString n
  String.ofList (List.replicate (width - digits.length) '0') ++ digits

/-- The time stamp for some seconds behind the start of the year 1970. -/
def ofSeconds (seconds : Nat) : String :=
  let date := Date.ofDays (seconds / 86400)
  let inDay := seconds % 86400
  padded 4 date.year ++ "-" ++ padded 2 date.month ++ "-" ++ padded 2 date.day ++ "T" ++
    padded 2 (inDay / 3600) ++ ":" ++ padded 2 (inDay / 60 % 60) ++ ":" ++ padded 2 (inDay % 60) ++
    "Z"

end ScriptSuite.Timestamp
