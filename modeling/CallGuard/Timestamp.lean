/-! # Timestamps

A point in universal time, given by its date in the Gregorian calendar and the time of day to the nanosecond. The second
60 is a leap second. A clock is what it shows each time that it is read. -/

namespace CallGuard

/-- Whether a year has a 29th of February. -/
def isLeapYear (year : Int) : Bool :=
  year % 4 = 0 && (year % 100 ≠ 0 || year % 400 = 0)

/-- The number of days of a month. -/
def daysInMonth (year : Int) (month : Nat) : Nat :=
  if month = 2 then if isLeapYear year then 29 else 28
  else if month = 4 ∨ month = 6 ∨ month = 9 ∨ month = 11 then 30
  else 31

/-- A day, as its year, month and day of the month. -/
structure Date where
  year : Int
  month : Nat
  day : Nat
  deriving DecidableEq, Repr

namespace Date

/-- The years that dates can have. -/
def yearRange : Int × Int := (-262143, 262142)

/-- Whether the calendar has such a day. -/
def Valid (d : Date) : Prop :=
  (yearRange.1 ≤ d.year ∧ d.year ≤ yearRange.2) ∧ (1 ≤ d.month ∧ d.month ≤ 12) ∧
    (1 ≤ d.day ∧ d.day ≤ daysInMonth d.year d.month)

instance (d : Date) : Decidable d.Valid :=
  inferInstanceAs (Decidable (_ ∧ _ ∧ _))

/-- The day after. -/
def next (d : Date) : Date :=
  if d.day < daysInMonth d.year d.month then { d with day := d.day + 1 }
  else if d.month < 12 then ⟨d.year, d.month + 1, 1⟩
  else ⟨d.year + 1, 1, 1⟩

/-- The day before. -/
def previous (d : Date) : Date :=
  if 1 < d.day then { d with day := d.day - 1 }
  else if 1 < d.month then ⟨d.year, d.month - 1, daysInMonth d.year (d.month - 1)⟩
  else ⟨d.year - 1, 12, 31⟩

/-- The day so many days after the first of January 1970. Days are counted in years that begin in March, so that a leap
    day is the last of its year, and in cycles of 400 years, which have equally many days. -/
def ofDays (days : Nat) : Date :=
  let sinceMarch0 := days + 719468
  let cycle := sinceMarch0 / 146097
  let day := sinceMarch0 % 146097
  let year := (day - day / 1460 + day / 36524 - day / 146096) / 365
  let dayOfYear := day - (365 * year + year / 4 - year / 100)
  let month := (5 * dayOfYear + 2) / 153
  let dayOfMonth := dayOfYear - (153 * month + 2) / 5 + 1
  let year : Int := 400 * cycle + year
  if month < 10 then ⟨year, month + 3, dayOfMonth⟩ else ⟨year + 1, month - 9, dayOfMonth⟩

end Date

/-- A time of day. -/
structure TimeOfDay where
  hour : Nat
  minute : Nat
  second : Nat
  nanosecond : Nat
  deriving DecidableEq, Repr

/-- Whether a day has such a time; the second 60 is a leap second. -/
def TimeOfDay.Valid (t : TimeOfDay) : Prop :=
  t.hour < 24 ∧ t.minute < 60 ∧ t.second ≤ 60 ∧ t.nanosecond < 1000000000

instance (t : TimeOfDay) : Decidable t.Valid :=
  inferInstanceAs (Decidable (_ ∧ _ ∧ _ ∧ _))

/-- A point in universal time. -/
structure Timestamp where
  date : Date
  time : TimeOfDay
  date_valid : date.Valid
  time_valid : time.Valid
  deriving DecidableEq

namespace Timestamp

/-- The point in time of a date and a time of day, if the calendar has both. -/
def of? (date : Date) (time : TimeOfDay) : Option Timestamp :=
  if h : date.Valid ∧ time.Valid then some ⟨date, time, h.1, h.2⟩ else none

/-- The point in time that a clock set `offset` minutes ahead of universal time shows as a date and a time of day; the
    offset is below a day. -/
def ofLocal? (date : Date) (time : TimeOfDay) (offset : Int) : Option Timestamp :=
  if date.Valid ∧ time.Valid then
    let minutes : Int := 60 * time.hour + time.minute - offset
    let day := if minutes < 0 then date.previous else if 1440 ≤ minutes then date.next else date
    let minutes := (minutes % 1440).toNat
    of? day { time with hour := minutes / 60, minute := minutes % 60 }
  else none

/-- The first moment of the year 1970. -/
def epoch : Timestamp :=
  ⟨⟨1970, 1, 1⟩, ⟨0, 0, 0, 0⟩, by decide, by decide⟩

/-- The point in time so many nanoseconds after the first moment of 1970, leap seconds not counted. Beyond the years
    that dates can have it stays at that first moment. -/
def ofNanoseconds (n : Nat) : Timestamp :=
  let seconds := n / 1000000000
  let time : TimeOfDay := ⟨seconds / 3600 % 24, seconds / 60 % 60, seconds % 60, n % 1000000000⟩
  (of? (.ofDays (seconds / 86400)) time).getD epoch

end Timestamp

/-- What a clock shows, one reading after the other. -/
abbrev Clock := Nat → Timestamp

namespace Clock

/-- A clock that stands still. -/
def still (time : Timestamp) : Clock := fun _ => time

/-- The clock that was never set: it stands still at the first moment of 1970. -/
def epoch : Clock := still .epoch

/-- The readings behind the first ones. -/
def after (clock : Clock) (count : Nat) : Clock := fun i => clock (i + count)

/-- A reading, and the readings behind it. -/
def cons (first : Timestamp) (rest : Clock) : Clock
  | 0 => first
  | i + 1 => rest i

/-- The first readings, and no others. -/
def upTo (clock : Clock) (count : Nat) : Clock := fun i => if i < count then clock i else epoch i

theorem after_after (clock : Clock) (m n : Nat) : (clock.after m).after n = clock.after (m + n) :=
  funext fun i => congrArg clock (by omega)

theorem upTo_apply {clock : Clock} {count i : Nat} (h : i < count) : clock.upTo count i = clock i :=
  if_pos h

theorem cons_upTo (clock : Clock) (count : Nat) :
    cons (clock 0) ((clock.after 1).upTo count) = clock.upTo (count + 1) := by
  funext i
  cases i with
  | zero => exact (upTo_apply (Nat.succ_pos count)).symm
  | succ i => simp [cons, upTo, after, epoch, still]

end Clock

end CallGuard
