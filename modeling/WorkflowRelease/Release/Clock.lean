import WorkflowRelease.Decimal.Binary64
import WorkflowRelease.Json.Literal

/-!
# The clock

The time that a count of seconds stands for, counted from the first day of 2025, written as the
service writes it (`utc_now`). A count may have a fraction, which is rounded to microseconds, and
may lie outside the calendar.
-/

namespace WorkflowRelease.Clock

/-- Why a count of seconds stands for no time. -/
inductive Fault where
  /-- The count is a value of another kind than the numbers. -/
  | noNumber (kind : String)
  /-- The days are beyond any number that days are counted with. -/
  | uncountable
  | tooManyDays (days : Int)
  /-- The day is before the first or after the last year of the calendar. -/
  | offCalendar
deriving DecidableEq, Repr

/-- The most days that a count may come to, whether they are in the calendar or not. -/
def mostDays : Int := 999999999

def Fault.message : Fault → String
  | noNumber kind => "unsupported type for timedelta seconds component: " ++ kind
  | uncountable => "Python int too large to convert to C int"
  | tooManyDays days =>
    "days=" ++ toString days ++ "; must have magnitude <= " ++ toString mostDays
  | offCalendar => "date value out of range"

/-! ## Counting -/

/-- The microseconds in a second. -/
def million : Int := 1000000

/-- The integer nearest to a number of units of a double; a half goes to the even neighbour. -/
def nearest (units : Int) : Int := units.sign * nearestEven units.natAbs Binary64.unit

/-- The microseconds of a count with a fraction. The fraction is rounded as a double first. -/
def ofDouble (x : Binary64) : Int :=
  let fraction := x.units.tmod Binary64.unit
  nearest (x.toInt * million * Binary64.unit + (Binary64.ofUnits (fraction * million)).units)

/-- The microseconds of a count of seconds. -/
def microseconds? : Json → Except Fault Int
  | .int n => .ok (n * million)
  | .bool b => .ok (if b then million else 0)
  | .float x => .ok (ofDouble x)
  | v => .error (.noNumber v.kind)

/-! ## The calendar -/

/-- The number in decimal, with zeros in front up to a width. -/
def padded (width n : Nat) : String :=
  let digits := toString n
  String.ofList (List.replicate (width - digits.length) '0') ++ digits

/-- The days of the calendar, counted from the first day of 2025. -/
def isInCalendar (day : Int) : Bool := -739251 ≤ day && day ≤ 2912807

/-- The date of a day that is counted from the first day of 2025. Years are counted from March, so
that a leap day is the last day of its year, and the days of 400 years always are as many. -/
def date (day : Int) : String :=
  let z := day + 739557
  let era := z / 146097
  let dayOfEra := z % 146097
  let yearOfEra :=
    (dayOfEra - dayOfEra / 1460 + dayOfEra / 36524 - dayOfEra / 146096) / 365
  let dayOfYear := dayOfEra - (365 * yearOfEra + yearOfEra / 4 - yearOfEra / 100)
  let monthFromMarch := (5 * dayOfYear + 2) / 153
  let dayOfMonth := dayOfYear - (153 * monthFromMarch + 2) / 5 + 1
  let month := if monthFromMarch < 10 then monthFromMarch + 3 else monthFromMarch - 9
  let year := yearOfEra + era * 400 + (if month ≤ 2 then 1 else 0)
  padded 4 year.toNat ++ "-" ++ padded 2 month.toNat ++ "-" ++ padded 2 dayOfMonth.toNat

/-- The time of day after some microseconds; microseconds are left out where there are none. -/
def timeOfDay (n : Nat) : String :=
  let s := n / 1000000
  let rest := n % 1000000
  padded 2 (s / 3600) ++ ":" ++ padded 2 (s / 60 % 60) ++ ":" ++ padded 2 (s % 60) ++
    (if rest = 0 then "" else "." ++ padded 6 rest)

/-- The microseconds in a day. -/
def dayLength : Int := 86400 * million

/-- The time after some microseconds. -/
def ofMicroseconds (n : Int) : Except Fault String :=
  let day := n / dayLength
  if day < -0x80000000 || 0x80000000 ≤ day then .error .uncountable
  else if day < -mostDays || mostDays < day then .error (.tooManyDays day)
  else if !isInCalendar day then .error .offCalendar
  else .ok (date day ++ "T" ++ timeOfDay (n % dayLength).toNat ++ "+00:00")

/-- The time after a count of seconds. -/
def ofSeconds (seconds : Json) : Except Fault String := do ofMicroseconds (← microseconds? seconds)

end WorkflowRelease.Clock
