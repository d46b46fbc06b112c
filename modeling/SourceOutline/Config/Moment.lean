set_option autoImplicit false

/-! # Dates and times

A configuration can hold a date, a time of day, or both, with or without how far that is ahead of
universal time. Only dates of the calendar and times of the clock can be built. -/

namespace SourceOutline

/-! ## The calendar and the clock -/

def isLeapYear (year : Nat) : Bool :=
  year % 4 = 0 && (year % 100 ≠ 0 || year % 400 = 0)

/-- How many days a month has. -/
def daysInMonth (year month : Nat) : Nat :=
  if month = 2 then if isLeapYear year then 29 else 28
  else if month = 4 || month = 6 || month = 9 || month = 11 then 30
  else 31

/-- A date of the years that have four digits. -/
structure Date where
  year : Nat
  month : Nat
  day : Nat
  year_mem : 1 ≤ year ∧ year ≤ 9999
  month_mem : 1 ≤ month ∧ month ≤ 12
  day_mem : 1 ≤ day ∧ day ≤ daysInMonth year month
deriving Repr, DecidableEq

/-- A time of day, to the millionth of a second. -/
structure Clock where
  hour : Nat
  minute : Nat
  second : Nat
  microsecond : Nat
  hour_lt : hour < 24
  minute_lt : minute < 60
  second_lt : second < 60
  microsecond_lt : microsecond < 1000000
deriving Repr, DecidableEq

/-- The date of a year, a month and a day, if there is one. -/
def Date.ofParts? (year month day : Nat) : Option Date :=
  if h : (1 ≤ year ∧ year ≤ 9999) ∧ (1 ≤ month ∧ month ≤ 12) ∧
      (1 ≤ day ∧ day ≤ daysInMonth year month) then
    some ⟨year, month, day, h.1, h.2.1, h.2.2⟩
  else none

/-- The time of an hour, a minute, a second and its millionths, if there is one. -/
def Clock.ofParts? (hour minute second microsecond : Nat) : Option Clock :=
  if h : hour < 24 ∧ minute < 60 ∧ second < 60 ∧ microsecond < 1000000 then
    some ⟨hour, minute, second, microsecond, h.1, h.2.1, h.2.2.1, h.2.2.2⟩
  else none

/-- The number of a day, counted from the first one. -/
def Date.number (date : Date) : Nat :=
  let years := date.year - 1
  let before := 365 * years + years / 4 - years / 100 + years / 400
  (List.range (date.month - 1)).foldl (fun days n => days + daysInMonth date.year (n + 1)) before
    + date.day

/-- How many microseconds of a day have passed. -/
def Clock.microseconds (clock : Clock) : Nat :=
  ((clock.hour * 60 + clock.minute) * 60 + clock.second) * 1000000 + clock.microsecond

/-! ## Moments -/

/-- A date, a time of day, or both, which may say by how many minutes it is ahead of universal
    time. -/
inductive Moment where
  | date (date : Date)
  | time (clock : Clock)
  | dateTime (date : Date) (clock : Clock) (ahead? : Option Int)
deriving Repr, DecidableEq

namespace Moment

/-- The name of a moment's type in messages. -/
def typeName : Moment → String
  | date _ => "datetime.date"
  | time _ => "datetime.time"
  | dateTime _ _ _ => "datetime.datetime"

/-- The microseconds up to a time in universal time. -/
def universal (date : Date) (clock : Clock) (ahead : Int) : Int :=
  (date.number * 1440 - ahead) * 60000000 + clock.microseconds

/-- Whether two moments are equal. Those that say how far they are ahead are compared in universal
    time. -/
def same : Moment → Moment → Bool
  | dateTime d c (some ahead), dateTime d' c' (some ahead') =>
    universal d c ahead == universal d' c' ahead'
  | moment, other => moment = other

/-! ## Text -/

/-- A number with zeros in front of its digits. -/
def padded (width n : Nat) : List Char :=
  let digits := (toString n).toList
  List.replicate (width - digits.length) '0' ++ digits

/-- A date as it is shown. -/
def dateText (date : Date) : List Char :=
  padded 4 date.year ++ '-' :: padded 2 date.month ++ '-' :: padded 2 date.day

/-- A time of day as it is shown. -/
def clockText (clock : Clock) : List Char :=
  padded 2 clock.hour ++ ':' :: padded 2 clock.minute ++ ':' :: padded 2 clock.second
    ++ if clock.microsecond = 0 then [] else '.' :: padded 6 clock.microsecond

/-- How far a time is ahead of universal time. -/
def aheadText (ahead : Int) : List Char :=
  (if ahead < 0 then '-' else '+')
    :: padded 2 (ahead.natAbs / 60) ++ ':' :: padded 2 (ahead.natAbs % 60)

/-- A moment as it is shown, with a character between its date and its time. -/
def text (separator : Char) : Moment → List Char
  | date d => dateText d
  | time c => clockText c
  | dateTime d c ahead? =>
    dateText d ++ separator :: clockText c ++ (ahead?.map aheadText).getD []

/-- Numbers with commas between them. -/
def listed (numbers : List Nat) : List Char :=
  List.intercalate [',', ' '] (numbers.map fun n => (toString n).toList)

/-- The parts of a time, without those at the end that are zero after the minutes. -/
def clockParts (clock : Clock) : List Nat :=
  if clock.microsecond ≠ 0 then [clock.hour, clock.minute, clock.second, clock.microsecond]
  else if clock.second ≠ 0 then [clock.hour, clock.minute, clock.second]
  else [clock.hour, clock.minute]

/-- A moment as it is written inside other values. -/
def literal (moment : Moment) : List Char :=
  let parts : List Char :=
    match moment with
    | date d => listed [d.year, d.month, d.day]
    | time c => listed (clockParts c)
    | dateTime d c ahead? =>
      listed ([d.year, d.month, d.day] ++ clockParts c)
        ++ if ahead?.isSome then ", tzinfo=<toml.tz.TomlTz object>".toList else []
  moment.typeName.toList ++ '(' :: parts ++ [')']

end Moment

end SourceOutline
