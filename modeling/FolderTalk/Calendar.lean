import FolderTalk.Value.Shown

/-!
# The calendar

Dates and times of day from the time that has passed since the beginning of 1970, in universal
time.
-/

namespace FolderTalk

/-- The day with a number, counted from 1 January 1970. Years begin in March here, so that the day
of a leap year comes last; 400 years have 146097 days. -/
def Date.ofDayNumber (n : Nat) : Date :=
  let days := n + 719468
  let day := days % 146097
  let year := (day - day / 1460 + day / 36524 - day / 146096) / 365
  let dayOfYear := day - (365 * year + year / 4 - year / 100)
  let month := (5 * dayOfYear + 2) / 153
  let isNextYear := 10 ≤ month
  { year := days / 146097 * 400 + year + (if isNextYear then 1 else 0)
    month := if isNextYear then month - 9 else month + 3
    day := dayOfYear - (153 * month + 2) / 5 + 1 }

/-- The moment at a number of milliseconds since the beginning of 1970. -/
def Moment.ofMilliseconds (ms : Nat) : Moment :=
  let seconds := ms / 1000
  { date := .ofDayNumber (seconds / 86400)
    hour := seconds / 3600 % 24
    minute := seconds / 60 % 60
    second := seconds % 60
    micros := ms % 1000 * 1000 }

/-- The moment as the configuration file shows it. -/
def Moment.stamp (m : Moment) : String := m.text "T" ++ "Z"

/-- The moment as the log shows it, to the millisecond. -/
def Moment.logTime (m : Moment) : String :=
  { m with micros := 0 }.text " " ++ "," ++ Value.padded 3 (m.micros / 1000)

end FolderTalk
