import DocQuery.Number.Layout
import DocQuery.Text.Digits

/-!
# Calendar

Times in milliseconds since the start of 1970 and their texts: the text with a
date, a time of day and an offset from universal time that is read, and the
text that is written.
-/

namespace DocQuery.Calendar

open Text

/-- A day of the calendar. -/
structure Date where
  year : Int
  month : Nat
  day : Nat
  deriving DecidableEq, Repr

/-- A year with 366 days. -/
def isLeapYear (year : Int) : Bool :=
  year % 4 == 0 && (year % 100 != 0 || year % 400 == 0)

/-- The count of days of a month. -/
def monthLength (year : Int) : Nat → Nat
  | 2 => if isLeapYear year then 29 else 28
  | 4 | 6 | 9 | 11 => 30
  | _ => 31

/-- A day that exists. -/
def Date.isValid (date : Date) : Bool :=
  decide (1 ≤ date.month ∧ date.month ≤ 12 ∧ 1 ≤ date.day ∧
    date.day ≤ monthLength date.year date.month)

/-- The count of days from the start of 1970 to a day.  Years are counted from
March, so that the day that some years have more is the last one. -/
def Date.toDays (date : Date) : Int :=
  let year := if date.month ≤ 2 then date.year - 1 else date.year
  let era := year.fdiv 400
  let yearOfEra := year - era * 400
  let month : Int := if date.month ≤ 2 then date.month + 9 else date.month - 3
  let dayOfYear := (153 * month + 2) / 5 + date.day - 1
  let dayOfEra := yearOfEra * 365 + yearOfEra / 4 - yearOfEra / 100 + dayOfYear
  era * 146097 + dayOfEra - 719468

/-- The day that is a count of days after the start of 1970. -/
def Date.ofDays (days : Int) : Date :=
  let shifted := days + 719468
  let era := shifted.fdiv 146097
  let dayOfEra := shifted - era * 146097
  let yearOfEra :=
    (dayOfEra - dayOfEra / 1460 + dayOfEra / 36524 - dayOfEra / 146096) / 365
  let dayOfYear :=
    dayOfEra - (365 * yearOfEra + yearOfEra / 4 - yearOfEra / 100)
  let month := (5 * dayOfYear + 2) / 153
  let day := (dayOfYear - (153 * month + 2) / 5 + 1).toNat
  let monthNumber := (if month < 10 then month + 3 else month - 9).toNat
  let year := yearOfEra + era * 400
  ⟨if monthNumber ≤ 2 then year + 1 else year, monthNumber, day⟩

/-- Read exactly `count` digits. -/
def fixedDigits? (count : Nat) (characters : List Char) :
    Option (Nat × List Char) :=
  if characters.length < count then none
  else (decimal? (characters.take count)).map fun value =>
    (value, characters.drop count)

/-- Read one given character. -/
def mark? (expected : Char) : List Char → Option (List Char)
  | [] => none
  | character :: rest => if character = expected then some rest else none

/-- The first nine digits of a fraction of a second, in nanoseconds. -/
def nanosecondsOf (digits : List Char) : Nat :=
  ((decimal? ((digits ++ Layout.zeros 9).take 9)).getD 0)

/-- Read a fraction of a second, if there is a point. -/
def fraction? : List Char → Option (Nat × List Char)
  | '.' :: rest =>
    let (digits, last) := spanDigits rest
    if digits = [] then none else some (nanosecondsOf digits, last)
  | rest => some (0, rest)

/-- Read an offset from universal time that ends the text, in seconds. -/
def offset? : List Char → Option Int
  | [] => none
  | [character] => if character = 'Z' ∨ character = 'z' then some 0 else none
  | sign :: rest => do
    let factor ←
      if sign = '+' then some 1 else if sign = '-' then some (-1) else none
    let (hours, rest) ← fixedDigits? 2 rest
    let rest ← mark? ':' rest
    let (minutes, rest) ← fixedDigits? 2 rest
    if rest = [] ∧ minutes ≤ 59 then
      some (factor * (hours * 3600 + minutes * 60))
    else
      none

/-- The last second of a month in universal time, given in seconds since the
start of 1970. -/
def isMonthEnd (seconds : Int) : Bool :=
  let date := Date.ofDays (seconds.fdiv 86400)
  seconds.fmod 86400 == 86399 &&
    date.day == monthLength date.year date.month

/-- Read a date, one separating character, a time of day and an offset of less
than a day, as milliseconds cut toward zero.  A sixtieth second is the end of
the fifty-ninth, and only at the end of a month. -/
def parse? (text : String) : Option Int := do
  let (year, rest) ← fixedDigits? 4 text.toList
  let rest ← mark? '-' rest
  let (month, rest) ← fixedDigits? 2 rest
  let rest ← mark? '-' rest
  let (day, rest) ← fixedDigits? 2 rest
  let rest ← match rest with
    | separator :: rest => if separator.toNat < 128 then some rest else none
    | [] => none
  let (hour, rest) ← fixedDigits? 2 rest
  let rest ← mark? ':' rest
  let (minute, rest) ← fixedDigits? 2 rest
  let rest ← mark? ':' rest
  let (second, rest) ← fixedDigits? 2 rest
  let (nanoseconds, rest) ← fraction? rest
  let offset ← offset? rest
  let date : Date := ⟨year, month, day⟩
  if !date.isValid || 23 < hour || 59 < minute || 60 < second ||
      86400 ≤ offset.natAbs then
    none
  else
    let leap := second == 60
    let second := if leap then 59 else second
    let nanoseconds := if leap then 999999999 else nanoseconds
    let seconds : Int :=
      date.toDays * 86400 + (hour * 3600 + minute * 60 + second : Nat) - offset
    if leap && !isMonthEnd seconds then
      none
    else
      some ((seconds * 1000000000 + nanoseconds).tdiv 1000000)

/-- The digits of a number with zeros in front. -/
def padded (width value : Nat) : List Char :=
  let digits := Layout.digitsOf value
  Layout.zeros (width - digits.length) ++ digits

/-- Milliseconds as a fraction of a second, without zeros at the end but with
at least one digit. -/
def fractionText (milliseconds : Nat) : List Char :=
  if milliseconds % 10 ≠ 0 then padded 3 milliseconds
  else if milliseconds / 10 % 10 ≠ 0 then padded 2 (milliseconds / 10)
  else padded 1 (milliseconds / 100)

/-- A day as year, month and day; a year before the first has a sign. -/
def Date.text (date : Date) : List Char :=
  (if date.year < 0 then ['-'] else []) ++ padded 4 date.year.natAbs ++
    '-' :: padded 2 date.month ++ '-' :: padded 2 date.day

/-- A time in milliseconds as date, time of day and offset; a time outside the
years -9999 to 9999 is written as its milliseconds. -/
def toText (milliseconds : Int) : String :=
  let days := milliseconds.fdiv 86400000
  let rest := (milliseconds.fmod 86400000).toNat
  let date := Date.ofDays days
  if date.year < -9999 ∨ 9999 < date.year then
    String.ofList (Layout.integer milliseconds)
  else
    String.ofList (date.text ++ ' ' :: Layout.digitsOf (rest / 3600000) ++
      ':' :: padded 2 (rest / 60000 % 60) ++ ':' :: padded 2 (rest / 1000 % 60) ++
      '.' :: fractionText (rest % 1000) ++ " +00:00:00".toList)

example : parse? "2020-01-01T00:00:00+02:00" = some 1577829600000 := by
  decide +kernel
example : toText 1577829600005 = "2019-12-31 22:00:00.005 +00:00:00" := by
  decide +kernel

end DocQuery.Calendar
