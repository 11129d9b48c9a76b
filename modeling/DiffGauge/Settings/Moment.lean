import DiffGauge.Text.Digit

/-!
# Dates and times

A moment is a date, a time of day, or both with perhaps an offset from universal time. A date
that no calendar has does not exist.
-/

namespace DiffGauge.Settings

open Text

/-- A day of the calendar. -/
structure Day where
  year : Nat
  month : Nat
  day : Nat
  deriving DecidableEq, Repr

/-- A time of day, down to millionths of a second. -/
structure DayTime where
  hour : Nat
  minute : Nat
  second : Nat
  micro : Nat
  deriving DecidableEq, Repr

/-- A date, a time of day, or both with perhaps an offset in minutes. -/
inductive Moment where
  | date (day : Day)
  | time (time : DayTime)
  | both (day : Day) (time : DayTime) (offset : Option Int)
  deriving DecidableEq, Repr

/-- The year has a leap day. -/
def isLeap (year : Nat) : Bool := year % 4 == 0 && (year % 100 != 0 || year % 400 == 0)

/-- The number of days of a month. -/
def daysOf (year month : Nat) : Nat :=
  if month = 2 then (if isLeap year then 29 else 28)
  else if month = 4 || month = 6 || month = 9 || month = 11 then 30 else 31

/-- The day exists. -/
def Day.exists (d : Day) : Bool :=
  1 ≤ d.year && 1 ≤ d.month && d.month ≤ 12 && 1 ≤ d.day && d.day ≤ daysOf d.year d.month

/-- A number in at least so many digits. -/
def padded (width n : Nat) : String :=
  let digits := digitsOf n
  String.ofList (List.replicate (width - digits.length) '0' ++ digits)

/-- A day as year, month and day. -/
def Day.text (d : Day) : String :=
  padded 4 d.year ++ "-" ++ padded 2 d.month ++ "-" ++ padded 2 d.day

/-- A time of day, with millionths if there are any. -/
def DayTime.text (t : DayTime) : String :=
  padded 2 t.hour ++ ":" ++ padded 2 t.minute ++ ":" ++ padded 2 t.second
    ++ (if t.micro = 0 then "" else "." ++ padded 6 t.micro)

/-- An offset as a sign, hours and minutes. -/
def offsetText (minutes : Int) : String :=
  (if minutes < 0 then "-" else "+") ++ padded 2 (minutes.natAbs / 60) ++ ":"
    ++ padded 2 (minutes.natAbs % 60)

/-- A moment as it is written. -/
def Moment.text : Moment → String
  | .date d => d.text
  | .time t => t.text
  | .both d t offset =>
    d.text ++ " " ++ t.text ++ match offset with
      | some m => offsetText m
      | none => ""

/-- The parts of a time of day that messages show: seconds and millionths only if they are not
    zero. -/
def DayTime.parts (t : DayTime) : List String :=
  [natText t.hour, natText t.minute]
    ++ (if t.second = 0 ∧ t.micro = 0 then [] else [natText t.second])
    ++ (if t.micro = 0 then [] else [natText t.micro])

/-- The parts of a day that messages show. -/
def Day.parts (d : Day) : List String := [natText d.year, natText d.month, natText d.day]

/-- A length of time in seconds as messages show it: whole days, which may be negative, and the
    seconds that remain. -/
def spanShown (seconds : Int) : String :=
  let days := seconds.fdiv 86400
  let rest := seconds.fmod 86400
  let parts := (if days = 0 then [] else ["days=" ++ intText days])
    ++ (if rest = 0 then [] else ["seconds=" ++ intText rest])
  "datetime.timedelta(" ++ (if parts.isEmpty then "0" else ", ".intercalate parts) ++ ")"

/-- An offset as messages show it. -/
def offsetShown (minutes : Int) : String :=
  if minutes = 0 then "datetime.timezone.utc"
  else "datetime.timezone(" ++ spanShown (minutes * 60) ++ ")"

/-- A moment as messages show it. -/
def Moment.shown : Moment → String
  | .date d => "datetime.date(" ++ ", ".intercalate d.parts ++ ")"
  | .time t => "datetime.time(" ++ ", ".intercalate t.parts ++ ")"
  | .both d t offset =>
    let zone := match offset with
      | some m => ["tzinfo=" ++ offsetShown m]
      | none => []
    "datetime.datetime(" ++ ", ".intercalate (d.parts ++ t.parts ++ zone) ++ ")"

end DiffGauge.Settings
