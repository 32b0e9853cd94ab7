import CompilePlayground.Text.Blank
import CompilePlayground.Text.Utf8

namespace CompilePlayground.Http

/-!
# Dates in header fields

A date counts the seconds since the beginning of 1970. It is written in one form, such as
`Sun, 09 Sep 2001 01:46:40 GMT`, and read in that form and in two older ones,
`Sunday, 09-Sep-01 01:46:40 GMT` and `Sun Sep  9 01:46:40 2001`. The day of the week is not
compared with the date that it stands before.
-/

/-- A moment as a calendar and a clock show it. Months and days count from one. -/
structure Calendar where
  year : Nat
  month : Nat
  day : Nat
  hour : Nat
  minute : Nat
  second : Nat
  deriving Repr, DecidableEq

namespace Date

/-- The days of the week, the first day of 1970 first. -/
def weekdays : List String :=
  ["Thursday", "Friday", "Saturday", "Sunday", "Monday", "Tuesday", "Wednesday"]

/-- The months by their short names. -/
def months : List String :=
  ["Jan", "Feb", "Mar", "Apr", "May", "Jun", "Jul", "Aug", "Sep", "Oct", "Nov", "Dec"]

/-- The days of a year before each month, in a year without a leap day. -/
def daysBefore : List Nat :=
  [0, 31, 59, 90, 120, 151, 181, 212, 243, 273, 304, 334]

/-- Whether a year has a leap day. -/
def isLeap (year : Nat) : Bool :=
  year % 4 = 0 && (year % 100 != 0 || year % 400 = 0)

/-- The leap days in the years before some year, from the year one on. -/
def leapDaysBefore (year : Nat) : Nat :=
  (year - 1) / 4 - (year - 1) / 100 + (year - 1) / 400

/-- The days before a year, from 1970 on. -/
def daysBeforeYear (year : Nat) : Nat :=
  (year - 1970) * 365 + (leapDaysBefore year - leapDaysBefore 1970)

/-- The days before a month within its year. -/
def daysBeforeMonth (year month : Nat) : Nat :=
  (daysBefore[month - 1]?).getD 0 + if isLeap year && 2 < month then 1 else 0

/-- The seconds of a day. -/
def secondsOfDay : Nat := 86400

/-- The seconds that have gone by at a moment. -/
def ofCalendar (calendar : Calendar) : Nat :=
  let days :=
    daysBeforeYear calendar.year + daysBeforeMonth calendar.year calendar.month
      + (calendar.day - 1)
  days * secondsOfDay + calendar.hour * 3600 + calendar.minute * 60 + calendar.second

/-- The greatest of some numbers counted down that a condition holds for. -/
def lastWhere (holds : Nat → Bool) : Nat → Nat
  | 0 => 0
  | number + 1 => if holds (number + 1) then number + 1 else lastWhere holds number

/-- The year of a day. A year has at least 365 days, so that it is one of few. -/
def yearOf (day : Nat) : Nat :=
  let latest := 1970 + day / 365
  let earliest := 1970 + day / 366
  earliest + lastWhere (fun more => daysBeforeYear (earliest + more) ≤ day) (latest - earliest)

/-- The moment at which some seconds have gone by. -/
def toCalendar (seconds : Nat) : Calendar :=
  let day := seconds / secondsOfDay
  let rest := seconds % secondsOfDay
  let year := yearOf day
  let dayOfYear := day - daysBeforeYear year
  let month := 1 + lastWhere (fun more => daysBeforeMonth year (1 + more) ≤ dayOfYear) 11
  { year, month,
    day := dayOfYear - daysBeforeMonth year month + 1,
    hour := rest / 3600,
    minute := rest % 3600 / 60,
    second := rest % 60 }

/-- A number with at least some count of digits. -/
def padded (width number : Nat) : String :=
  let digits := Nat.toDigits 10 number
  String.ofList (List.replicate (width - digits.length) '0' ++ digits)

/-- The short name of a day of the week. -/
def shortName (name : String) : String :=
  String.ofList (name.toList.take 3)

/-- The name of the day of the week on which some seconds have gone by. -/
def weekdayOf (seconds : Nat) : String :=
  (weekdays[seconds / secondsOfDay % 7]?).getD ""

/-- A date as it is written. -/
def write (seconds : Nat) : String :=
  let calendar := toCalendar seconds
  let month := (months[calendar.month - 1]?).getD ""
  shortName (weekdayOf seconds) ++ ", " ++ padded 2 calendar.day ++ " " ++ month ++ " "
    ++ padded 4 calendar.year ++ " " ++ padded 2 calendar.hour ++ ":"
    ++ padded 2 calendar.minute ++ ":" ++ padded 2 calendar.second ++ " GMT"

/-- The number that digits write, all of which have to be digits. -/
def number? (digits : List Char) : Option Nat :=
  if digits.all Char.isDigit then
    some (digits.foldl (fun value digit => value * 10 + (digit.toNat - '0'.toNat)) 0)
  else
    none

/-- The number of a month. -/
def month? (name : List Char) : Option Nat :=
  (months.findIdx? (·.toList == name)).map (· + 1)

/-- Whether a text is the short name of a day of the week. -/
def isShortWeekday (name : List Char) : Bool :=
  weekdays.any fun weekday => weekday.toList.take 3 == name

/-- A time of day such as `01:46:40`. -/
def readTime? : List Char → Option (Nat × Nat × Nat)
  | [h1, h2, ':', m1, m2, ':', s1, s2] => do
    let hour ← number? [h1, h2]
    let minute ← number? [m1, m2]
    let second ← number? [s1, s2]
    return (hour, minute, second)
  | _ => none

/-- A calendar with a time of day. -/
def atTime (year month day : Nat) (time : Nat × Nat × Nat) : Calendar :=
  ⟨year, month, day, time.1, time.2.1, time.2.2⟩

/-- The form that dates are written in. -/
def readFixed? : List Char → Option Calendar
  | w1 :: w2 :: w3 :: ',' :: ' ' :: d1 :: d2 :: ' ' :: m1 :: m2 :: m3 :: ' ' :: y1 :: y2 :: y3
      :: y4 :: ' ' :: rest => do
    let time ← readTime? (rest.take 8)
    let day ← number? [d1, d2]
    let month ← month? [m1, m2, m3]
    let year ← number? [y1, y2, y3, y4]
    if rest.drop 8 = [' ', 'G', 'M', 'T'] && isShortWeekday [w1, w2, w3] then
      return atTime year month day time
    else
      none
  | _ => none

/-- What follows the full name of a day of the week and a comma. -/
def afterWeekday? (text : List Char) : Option (List Char) :=
  (weekdays.find? fun weekday => (weekday.toList ++ [',', ' ']).isPrefixOf text).map
    fun weekday => text.drop (weekday.length + 2)

/-- The form with two digits for the year, which stands for one from 1970 to 2069. -/
def readShortYear? (text : List Char) : Option Calendar :=
  match afterWeekday? text with
  | some (d1 :: d2 :: '-' :: m1 :: m2 :: m3 :: '-' :: y1 :: y2 :: ' ' :: rest) => do
    let time ← readTime? (rest.take 8)
    let day ← number? [d1, d2]
    let month ← month? [m1, m2, m3]
    let short ← number? [y1, y2]
    if rest.drop 8 = [' ', 'G', 'M', 'T'] then
      return atTime (if short < 70 then 2000 + short else 1900 + short) month day time
    else
      none
  | _ => none

/-- A day of the month of which the first digit may be blank. -/
def readDay? : Char → Char → Option Nat
  | ' ', second => number? [second]
  | first, second => number? [first, second]

/-- The form with the year at its end. -/
def readYearLast? : List Char → Option Calendar
  | w1 :: w2 :: w3 :: ' ' :: m1 :: m2 :: m3 :: ' ' :: d1 :: d2 :: ' ' :: rest => do
    let time ← readTime? (rest.take 8)
    let day ← readDay? d1 d2
    let month ← month? [m1, m2, m3]
    match rest.drop 8 with
    | [' ', y1, y2, y3, y4] =>
      let year ← number? [y1, y2, y3, y4]
      if isShortWeekday [w1, w2, w3] then
        return atTime year month day time
      else
        none
    | _ => none
  | _ => none

/-- Whether a calendar shows a moment that a date can stand for. A day up to the 31st counts
on into the next month where the month is shorter. -/
def isValid (calendar : Calendar) : Bool :=
  calendar.second < 60 && calendar.minute < 60 && calendar.hour < 24 && 0 < calendar.day
    && calendar.day < 32 && 1970 ≤ calendar.year && calendar.year ≤ 9999

/-- The date that a text writes in any of the three forms. -/
def read? (bytes : Bytes) : Option Nat :=
  if bytes.all (· < 128) then
    let text := bytes.map fun byte => Char.ofNat byte.toNat
    let trimmed := Text.trim text
    (((readFixed? trimmed).orElse fun _ => readShortYear? trimmed).orElse fun _ =>
      readYearLast? trimmed).bind fun calendar =>
        if isValid calendar then some (ofCalendar calendar) else none
  else
    none

end Date

end CompilePlayground.Http
