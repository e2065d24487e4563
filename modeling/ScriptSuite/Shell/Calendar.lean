import ScriptSuite.Shell.Bytes

/-!
# Calendar

Days are counted from the first one of the year 1970, and moments in milliseconds from its start.
The calendar is the Gregorian one, also for years before it was introduced, and there is a single
time zone.

The leap day is the last day of a year that starts in March, so the length of a month does not
depend on the year, and the days of four hundred years are always the same number.

## Main definitions

* `Shell.CivilDate`: a year, a month and a day.
* `Shell.CivilDate.ofDays`, `Shell.CivilDate.toDays`: dates and numbers of days.
* `Shell.Moment`: a point of time, and how it is written.
-/

namespace ScriptSuite.Shell

/-- A date. -/
structure CivilDate where
  /-- The year. -/
  year : Int
  /-- The month, from one on. -/
  month : Nat
  /-- The day of the month, from one on. -/
  day : Nat
deriving DecidableEq, Repr

namespace CivilDate

/-- The number of days in front of a month, counted from March. -/
def daysBeforeMonth (fromMarch : Nat) : Nat := (153 * fromMarch + 2) / 5

/-- The number of days from the start of the year 1970 to a date. -/
def toDays (d : CivilDate) : Int :=
  let fromMarch := (d.month + 9) % 12
  let year := if d.month ≤ 2 then d.year - 1 else d.year
  let age := Int.fdiv year 400
  let ofAge := (year - 400 * age).toNat
  let inAge := 365 * ofAge + ofAge / 4 - ofAge / 100 + daysBeforeMonth fromMarch
  146097 * age + inAge + d.day - 1 - 719468

/-- The date behind a number of days from the start of the year 1970. -/
def ofDays (days : Int) : CivilDate :=
  let days := days + 719468
  let age := Int.fdiv days 146097
  let inAge := (days - 146097 * age).toNat
  let ofAge := (inAge - inAge / 1460 + inAge / 36524 - inAge / 146096) / 365
  let inYear := inAge - (365 * ofAge + ofAge / 4 - ofAge / 100)
  let fromMarch := (5 * inYear + 2) / 153
  let month := if fromMarch < 10 then fromMarch + 3 else fromMarch - 9
  { year := 400 * age + ofAge + (if month ≤ 2 then 1 else 0)
    month
    day := inYear - daysBeforeMonth fromMarch + 1 }

/-- The date of the start of a month that is a number of months away. -/
def monthsLater (months : Int) (d : CivilDate) : CivilDate :=
  let m := (d.month : Int) - 1 + months
  { d with year := d.year + Int.fdiv m 12, month := (Int.fmod m 12).toNat + 1 }

/-- The number of days from the start of the year. -/
def dayOfYear (d : CivilDate) : Nat :=
  (d.toDays - toDays { year := d.year, month := 1, day := 1 }).toNat

/-- The day of the week, with zero for Sunday. -/
def weekday (d : CivilDate) : Nat := (Int.fmod (d.toDays + 4) 7).toNat

/-- The year that a week belongs to, and the number of the week in it: it is the year of the
Thursday. -/
def week (d : CivilDate) : Int × Nat :=
  let fromMonday := (d.weekday + 6) % 7
  let thursday := ofDays (d.toDays + 3 - fromMonday)
  (thursday.year, thursday.dayOfYear / 7 + 1)

end CivilDate

/-- The names of the months. -/
def monthNames : List String :=
  ["January", "February", "March", "April", "May", "June", "July", "August", "September", "October",
    "November", "December"]

/-- The names of the days of the week. -/
def weekdayNames : List String :=
  ["Sunday", "Monday", "Tuesday", "Wednesday", "Thursday", "Friday", "Saturday"]

/-- A point of time: milliseconds from the start of the year 1970. -/
abbrev Moment := Int

namespace Moment

/-- The full seconds. -/
def seconds (m : Moment) : Int := Int.fdiv m 1000

/-- The milliseconds behind the full second. -/
def milliseconds (m : Moment) : Nat := (Int.fmod m 1000).toNat

/-- The date. -/
def date (m : Moment) : CivilDate := CivilDate.ofDays (Int.fdiv m.seconds 86400)

/-- The seconds from the start of the day. -/
def secondOfDay (m : Moment) : Nat := (Int.fmod m.seconds 86400).toNat

/-- The moment of a date and a number of seconds from the start of the day. -/
def ofDate (d : CivilDate) (second : Int) : Moment := 1000 * (86400 * d.toDays + second)

/-- How a part of a moment is filled up to its width. -/
inductive Filling where
  /-- With zeros. -/
  | zeros
  /-- With blanks. -/
  | blanks
  /-- Not at all. -/
  | nothing
deriving DecidableEq, Repr

/-- A number that is filled up to a width. -/
def filled (f : Filling) (width : Nat) (n : Int) : List Char :=
  let ds := Nat.toDigits 10 n.natAbs
  let c := if f = .zeros then '0' else ' '
  (if n < 0 then ['-'] else []) ++
    (if f = .nothing then ds else List.replicate (width - ds.length) c ++ ds)

/-- A part of a moment that is a number: its usual filling, its width and its value. -/
def numeral? (m : Moment) (c : Char) : Option (Filling × Nat × Int) :=
  let d := m.date
  let hour := m.secondOfDay / 3600
  let hour12 := if hour % 12 = 0 then 12 else hour % 12
  match c with
  | 'Y' => some (.zeros, 4, d.year)
  | 'C' => some (.zeros, 2, Int.fdiv d.year 100)
  | 'y' => some (.zeros, 2, Int.fmod d.year 100)
  | 'G' => some (.zeros, 4, d.week.1)
  | 'g' => some (.zeros, 2, Int.fmod d.week.1 100)
  | 'V' => some (.zeros, 2, d.week.2)
  | 'm' => some (.zeros, 2, d.month)
  | 'd' => some (.zeros, 2, d.day)
  | 'e' => some (.blanks, 2, d.day)
  | 'j' => some (.zeros, 3, d.dayOfYear + 1)
  | 'q' => some (.zeros, 1, (d.month + 2) / 3)
  | 'H' => some (.zeros, 2, hour)
  | 'k' => some (.blanks, 2, hour)
  | 'I' => some (.zeros, 2, hour12)
  | 'l' => some (.blanks, 2, hour12)
  | 'M' => some (.zeros, 2, m.secondOfDay / 60 % 60)
  | 'S' => some (.zeros, 2, m.secondOfDay % 60)
  | 's' => some (.zeros, 1, m.seconds)
  | 'N' => some (.zeros, 9, 1000000 * m.milliseconds)
  | 'u' => some (.zeros, 1, (d.weekday + 6) % 7 + 1)
  | 'w' => some (.zeros, 1, d.weekday)
  | 'U' => some (.zeros, 2, (d.dayOfYear + 7 - d.weekday) / 7)
  | 'W' => some (.zeros, 2, (d.dayOfYear + 7 - (d.weekday + 6) % 7) / 7)
  | _ => none

/-- A part of a moment that is a word. -/
def word? (m : Moment) (c : Char) : Option String :=
  let d := m.date
  let month := (monthNames[d.month - 1]?).getD ""
  let weekday := (weekdayNames[d.weekday]?).getD ""
  let short (s : String) : String := String.ofList (s.toList.take 3)
  match c with
  | 'a' => some (short weekday)
  | 'A' => some weekday
  | 'b' | 'h' => some (short month)
  | 'B' => some month
  | 'p' => some (if m.secondOfDay < 43200 then "AM" else "PM")
  | 'P' => some (if m.secondOfDay < 43200 then "am" else "pm")
  | 'Z' => some "UTC"
  | 'z' => some "+0000"
  | 'n' => some "\n"
  | 't' => some "\t"
  | '%' => some "%"
  | _ => none

/-- What stands for other parts. -/
def abbreviation? (c : Char) : Option String :=
  match c with
  | 'F' => some "%Y-%m-%d"
  | 'T' | 'X' => some "%H:%M:%S"
  | 'R' => some "%H:%M"
  | 'D' | 'x' => some "%m/%d/%y"
  | 'c' => some "%a %b %e %H:%M:%S %Y"
  | 'r' => some "%I:%M:%S %p"
  | _ => none

/-- A part of a moment with a filling, a width, and whether it is written in capitals. -/
def part? (m : Moment) (filling : Option Filling) (width : Option Nat) (upper : Bool) (c : Char) :
    Option (List Char) :=
  match m.numeral? c with
  | some (usual, usualWidth, n) =>
    -- a width for the part of a second tells its digits
    if c = 'N' then
      let ds := filled .zeros 9 n
      some (match width with
        | some w =>
          if filling = some .nothing then ds.take w else ds.take w ++ List.replicate (w - 9) '0'
        | none => ds)
    else some (filled (filling.getD usual) (max usualWidth (width.getD 0)) n)
  | none => (m.word? c).map fun s =>
    let s := if upper then s.toList.map Char.toUpper else s.toList
    let fill := if filling = some .zeros then '0' else ' '
    List.replicate (width.getD 0 - s.length) fill ++ s

/-- A moment in a format. Each level of abbreviations takes one of the steps. -/
def format (m : Moment) (steps : Nat) (s : List Char) : List Char :=
  match steps with
  | 0 => []
  | steps + 1 =>
    match s with
    | [] => []
    | '%' :: rest =>
      let flags := rest.takeWhile fun c => ['-', '_', '0', '^', '#'].contains c
      let rest := rest.drop flags.length
      let ds := rest.takeWhile Char.isDigit
      let width := if ds.isEmpty then none else some (decimal ds)
      let rest := rest.drop ds.length
      let filling : Option Filling := (flags.reverse.findSome? fun
        | '-' => some Filling.nothing
        | '_' => some Filling.blanks
        | '0' => some Filling.zeros
        | _ => none)
      match rest with
      | [] => s
      | ':' :: 'z' :: rest => chars "+00:00" ++ format m steps rest
      | c :: rest =>
        match abbreviation? c with
        | some text =>
          let text := format m steps text.toList
          let text := if flags.contains '^' then text.map Char.toUpper else text
          text ++ format m steps rest
        | none =>
          match m.part? filling width (flags.contains '^') c with
          | some text => text ++ format m steps rest
          | none => s.take (s.length - rest.length) ++ format m steps rest
    | c :: rest => c :: format m steps rest

end Moment

end ScriptSuite.Shell
