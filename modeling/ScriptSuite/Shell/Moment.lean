import ScriptSuite.Shell.Calendar

/-!
# Reading moments

A moment is told by a date, a time of day and distances from there, in any order, each of which may
be missing: what is missing is taken from the present, but a date without a time means the start of
the day.

## Main definitions

* `Shell.MomentReading`: what has been read of a moment.
* `Shell.Moment.read?`: the moment that a text tells.
* `Shell.Moment.ofStamp?`: the moment that digits without marks between them tell.
-/

namespace ScriptSuite.Shell

/-- What has been read of a moment. -/
structure MomentReading where
  /-- The date. -/
  date : Option CivilDate := none
  /-- The seconds from the start of the day. -/
  second : Option Int := none
  /-- The moment, if all of it was told. -/
  whole : Option Moment := none
  /-- The day of the week. -/
  weekday : Option Nat := none
  /-- The distance in months. -/
  months : Int := 0
  /-- The distance in days. -/
  days : Int := 0
  /-- The distance in seconds. -/
  seconds : Int := 0

namespace MomentReading

/-- Adds a distance in a unit, if the unit is known. -/
def later? (r : MomentReading) (n : Int) (unit : List Char) : Option MomentReading :=
  let name := unit.map Char.toLower
  let name := if name.getLast? = some 's' && 3 < name.length then name.dropLast else name
  match String.ofList name with
  | "year" => some { r with months := r.months + 12 * n }
  | "month" => some { r with months := r.months + n }
  | "fortnight" => some { r with days := r.days + 14 * n }
  | "week" => some { r with days := r.days + 7 * n }
  | "day" => some { r with days := r.days + n }
  | "hour" => some { r with seconds := r.seconds + 3600 * n }
  | "minute" | "min" => some { r with seconds := r.seconds + 60 * n }
  | "second" | "sec" => some { r with seconds := r.seconds + n }
  | _ => none

/-- The distances turned into the past. -/
def ago (r : MomentReading) : MomentReading :=
  { r with months := -r.months, days := -r.days, seconds := -r.seconds }

/-- The moment that was read. -/
def moment (r : MomentReading) (now : Moment) : Moment :=
  let base : Moment := match r.whole with
    | some m => m
    | none =>
      let date := r.date.getD now.date
      let started := r.date.isSome || r.weekday.isSome
      match r.second with
      | some second => Moment.ofDate date second
      | none =>
        if started then Moment.ofDate date 0
        else Moment.ofDate date now.secondOfDay + now.milliseconds
  let start := base.date
  let shifted := start.monthsLater r.months
  let day := shifted.toDays + r.days
  let wait := match r.weekday with
    | some w => (w + 7 - (CivilDate.ofDays day).weekday) % 7
    | none => 0
  Moment.ofDate (CivilDate.ofDays (day + wait)) (base.secondOfDay + r.seconds) + base.milliseconds

end MomentReading

namespace Moment

/-- The place of a name among names, of which it may be the front of at least three letters. -/
def placeOf? (names : List String) (word : List Char) : Option Nat :=
  let word := word.map Char.toLower
  if word.length < 3 then none
  else names.findIdx? fun n => word.isPrefixOf (n.toList.map Char.toLower)

/-- A year of two digits stands for one between 1969 and 2068. -/
def fullYear (ds : List Char) : Int :=
  let n := decimal ds
  if ds.length ≤ 2 then (if n < 69 then 2000 + n else 1900 + n) else n

/-- A date, if there is such a day. -/
def date? (year : Int) (month day : Nat) : Option CivilDate :=
  let d : CivilDate := { year, month, day }
  if 1 ≤ month && month ≤ 12 && 1 ≤ day && CivilDate.ofDays d.toDays = d then some d else none

/-- A time of day, if there is such a time. -/
def secondOfDay? (hour minute second : Nat) : Option Int :=
  if hour < 24 && minute < 60 && second ≤ 60 then
    some (3600 * (hour : Int) + 60 * (minute : Int) + (second : Int))
  else none

/-- A time of day behind its hour: minutes, seconds and which half of the day it is. -/
def readTime? (hour : List Char) (s : List Char) : Option (Int × List Char) := do
  let two (s : List Char) : Option (Nat × List Char) :=
    match s with
    | ':' :: s =>
      let ds := s.takeWhile Char.isDigit
      if ds.isEmpty || 2 < ds.length then none else some (decimal ds, s.drop ds.length)
    | _ => none
  let (minute, s) := (two s).getD (0, s)
  let (second, s) := (two s).getD (0, s)
  let s := match s with
    | '.' :: rest => rest.dropWhile Char.isDigit
    | s => s
  let behind := s.dropWhile (· = ' ')
  let half := (behind.takeWhile Char.isAlpha).map Char.toLower
  let n := decimal hour
  if half = ['a', 'm'] || half = ['p', 'm'] then
    if n = 0 || 12 < n then none
    else
      let n := n % 12 + (if half = ['p', 'm'] then 12 else 0)
      return (← secondOfDay? n minute second, behind.drop 2)
  else return (← secondOfDay? n minute second, s)

/-- Reads what starts with digits. -/
def readNumeral? (r : MomentReading) (ds s : List Char) : Option (MomentReading × List Char) := do
  let take (s : List Char) : List Char × List Char :=
    (s.takeWhile Char.isDigit, s.dropWhile Char.isDigit)
  match s with
  | '-' :: rest =>
    let (month, rest) := take rest
    match rest with
    | '-' :: rest =>
      let (day, rest) := take rest
      let date ← date? (fullYear ds) (decimal month) (decimal day)
      let rest := match rest with
        | 'T' :: c :: _ => if c.isDigit then rest.tail else rest
        | rest => rest
      return ({ r with date := some date }, rest)
    | _ => none
  | '/' :: rest =>
    let (day, rest) := take rest
    match rest with
    | '/' :: rest =>
      let (year, rest) := take rest
      if 4 ≤ ds.length then
        return ({ r with date := some (← date? (decimal ds) (decimal day) (decimal year)) }, rest)
      else
        return ({ r with date := some (← date? (fullYear year) (decimal ds) (decimal day)) }, rest)
    | _ => none
  | ':' :: _ =>
    let (second, rest) ← readTime? ds s
    return ({ r with second := some second }, rest)
  | _ =>
    let behind := s.dropWhile fun c => c = ' ' || c = '-'
    let word := behind.takeWhile Char.isAlpha
    let rest := behind.drop word.length
    match placeOf? monthNames word, r.later? (decimal ds) word with
    | some month, _ =>
      let rest := rest.dropWhile fun c => c = ' ' || c = '-' || c = ','
      let (year, behindYear) := take rest
      if year.isEmpty || behindYear.head? = some ':' then
        let known := (r.date.map (·.year)).getD 1970
        return ({ r with date := some (← date? known (month + 1) (decimal ds)) }, rest)
      else
        let date ← date? (fullYear year) (month + 1) (decimal ds)
        return ({ r with date := some date }, behindYear)
    | none, some r => return (r, rest)
    | none, none =>
      if word.map Char.toLower = ['a', 'm'] || word.map Char.toLower = ['p', 'm'] then
        let (second, rest) ← readTime? ds s
        return ({ r with second := some second }, rest)
      else if ds.length = 8 then
        let date ← date? (decimal (ds.take 4)) (decimal ((ds.drop 4).take 2)) (decimal (ds.drop 6))
        return ({ r with date := some date }, s)
      else if ds.length = 4 && r.date.isSome && r.second.isSome then
        return ({ r with date := r.date.map fun d => { d with year := decimal ds } }, s)
      else if ds.length ≤ 4 then
        let hour := if ds.length ≤ 2 then decimal ds else decimal (ds.take (ds.length - 2))
        let minute := if ds.length ≤ 2 then 0 else decimal (ds.drop (ds.length - 2))
        return ({ r with second := some (← secondOfDay? hour minute 0) }, s)
      else none

/-- Reads what starts with a word. -/
def readWord? (now : Moment) (r : MomentReading) (word s : List Char) :
    Option (MomentReading × List Char) := do
  let lower := String.ofList (word.map Char.toLower)
  let behind := s.dropWhile (· = ' ')
  let unit := behind.takeWhile Char.isAlpha
  let rest := behind.drop unit.length
  let inUnit (n : Int) : Option (MomentReading × List Char) :=
    match placeOf? weekdayNames unit with
    | some w =>
      some ({ r with weekday := some w, days := r.days + (if n = 1 then 1 else 7 * n) }, rest)
    | none => (r.later? n unit).map (·, rest)
  match lower with
  | "now" | "today" | "utc" | "gmt" | "z" => return (r, s)
  | "yesterday" => return ({ r with days := r.days - 1 }, s)
  | "tomorrow" => return ({ r with days := r.days + 1 }, s)
  | "noon" => return ({ r with second := some 43200 }, s)
  | "midnight" => return ({ r with second := some 0 }, s)
  | "ago" => return (r.ago, s)
  | "next" => inUnit 1
  | "last" => inUnit (-1)
  | "this" => inUnit 0
  | _ =>
    match placeOf? monthNames word with
    | some month =>
      let ds := behind.takeWhile Char.isDigit
      let rest := (behind.drop ds.length).dropWhile fun c => c = ' ' || c = ','
      let year := rest.takeWhile Char.isDigit
      let rest' := rest.drop year.length
      if ds.isEmpty then none
      else if year.length = 4 && rest'.head? != some ':' then
        return ({ r with date := some (← date? (decimal year) (month + 1) (decimal ds)) }, rest')
      else
        return ({ r with date := some (← date? now.date.year (month + 1) (decimal ds)) }, rest)
    | none =>
      match placeOf? weekdayNames word with
      | some w => return ({ r with weekday := some w }, s)
      | none => return (← r.later? 1 word, s)

/-- Reads the parts of a moment one after the other. -/
def readParts? (now : Moment) (steps : Nat) (r : MomentReading) (s : List Char) :
    Option MomentReading :=
  match steps with
  | 0 => none
  | steps + 1 =>
    match s with
    | [] => some r
    | c :: rest =>
      if [' ', '\t', '\n', ','].contains c then readParts? now steps r rest
      else if c.isDigit then do
        let ds := s.takeWhile Char.isDigit
        let (r, rest) ← readNumeral? r ds (s.drop ds.length)
        readParts? now steps r rest
      else if c = '@' then do
        let text := rest.takeWhile fun c => c.isDigit || c = '-'
        let n ← integer? text
        let rest := match rest.drop text.length with
          | '.' :: rest => rest.dropWhile Char.isDigit
          | rest => rest
        readParts? now steps { r with whole := some (1000 * n) } rest
      else if c = '+' || c = '-' then do
        let rest := rest.dropWhile (· = ' ')
        let ds := rest.takeWhile Char.isDigit
        let n : Int := if c = '-' then -(decimal ds : Int) else decimal ds
        let behind := rest.drop ds.length
        let word := (behind.dropWhile (· = ' ')).takeWhile Char.isAlpha
        if ds.isEmpty then none
        else
          match r.later? n word with
          | some r => readParts? now steps r ((behind.dropWhile (· = ' ')).drop word.length)
          | none =>
            -- a sign behind a time tells how far the zone is ahead
            if r.second.isNone then none
            else
              let (hours, minutes, behind) := match ds.length, behind with
                | 4, behind => (decimal (ds.take 2), decimal (ds.drop 2), behind)
                | _, ':' :: more => (decimal ds, decimal (more.take 2), more.drop 2)
                | _, behind => (decimal ds, 0, behind)
              let shift : Int := 3600 * (hours : Int) + 60 * (minutes : Int)
              let shift := if c = '-' then shift else -shift
              readParts? now steps { r with seconds := r.seconds + shift } behind
      else if c.isAlpha then do
        let word := s.takeWhile Char.isAlpha
        let (r, rest) ← readWord? now r word (s.drop word.length)
        readParts? now steps r rest
      else none

/-- The moment that a text tells. -/
def read? (now : Moment) (s : List Char) : Option Moment :=
  let s := s.filter (· != '\x00')
  let empty := s.all (· = ' ')
  (readParts? now (s.length + 1) {} s).map fun r =>
    if empty then Moment.ofDate now.date 0 else r.moment now

/-- The moment that digits tell: month, day, hour and minute, with the year in front and the seconds
behind a point if need be. -/
def ofStamp? (now : Moment) (s : List Char) : Option Moment := do
  let body := s.takeWhile (· != '.')
  let seconds := (s.drop body.length).drop 1
  let two (i : Nat) (s : List Char) : Nat := decimal ((s.drop (2 * i)).take 2)
  if !body.all Char.isDigit || !seconds.all Char.isDigit then none
  else
    let (year, rest) ← match body.length with
      | 8 => some (now.date.year, body)
      | 10 => some (fullYear (body.take 2), body.drop 2)
      | 12 => some ((decimal (body.take 4) : Int), body.drop 4)
      | _ => none
    let date ← date? year (two 0 rest) (two 1 rest)
    let second ← secondOfDay? (two 2 rest) (two 3 rest) (decimal seconds)
    return ofDate date second

end Moment

end ScriptSuite.Shell
