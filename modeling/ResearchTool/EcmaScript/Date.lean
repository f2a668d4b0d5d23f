import Mathlib.Data.List.Basic
import Mathlib.Tactic.Ring

/-!
# ECMAScript dates

Time values, the calendar and the two setters of `Date`, one abstract operation
of the language after the other, in a local time with a fixed offset.
-/

namespace ResearchTool.EcmaScript

def msPerDay : Int :=
  86400000

/-- The bound of time values. -/
def maxTime : Int :=
  8640000000000000

/-- A time value other than `NaN`: milliseconds since the epoch. -/
structure TimeValue where
  ms : Int
  lower : -maxTime ≤ ms
  upper : ms ≤ maxTime
  deriving DecidableEq

/-- The value of a `Date`; an invalid one holds `NaN`. -/
abbrev Date := Option TimeValue

/-- `TimeClip`. -/
def timeClip (time : Int) : Date :=
  if range : -maxTime ≤ time ∧ time ≤ maxTime then
    some { ms := time, lower := range.1, upper := range.2 }
  else
    none

/-- `Day`. -/
def day (time : Int) : Int :=
  time / msPerDay

/-- `TimeWithinDay`. -/
def timeWithinDay (time : Int) : Int :=
  time % msPerDay

/-! ## The calendar -/

/-- `DayFromYear`: the day number of the first of January. -/
def dayFromYear (year : Int) : Int :=
  365 * (year - 1970) + (year - 1969) / 4 - (year - 1901) / 100 + (year - 1601) / 400

/-- `YearFromTime`, on day numbers: an estimate that is off by at most one. -/
def yearFromDay (day : Int) : Int :=
  let estimate := 400 * day / 146097 + 1970
  if day < dayFromYear estimate then
    estimate - 1
  else if dayFromYear (estimate + 1) ≤ day then
    estimate + 1
  else
    estimate

/-- `InLeapYear`. -/
def inLeapYear (year : Int) : Bool :=
  year % 4 == 0 && (year % 100 != 0 || year % 400 == 0)

/-- The days of the year before each month. -/
def daysBeforeMonths (leap : Bool) : List Int :=
  if leap then
    [0, 31, 60, 91, 121, 152, 182, 213, 244, 274, 305, 335]
  else
    [0, 31, 59, 90, 120, 151, 181, 212, 243, 273, 304, 334]

def dayWithinYear (day : Int) : Int :=
  day - dayFromYear (yearFromDay day)

/-- `MonthFromTime`: the last month that has begun. -/
def monthFromDay (day : Int) : Int :=
  (daysBeforeMonths (inLeapYear (yearFromDay day))).countP (· ≤ dayWithinYear day) - 1

def dayFromMonth (year month : Int) : Int :=
  dayFromYear year + (daysBeforeMonths (inLeapYear year)).getD month.toNat 0

/-- `DateFromTime`. -/
def dateFromDay (day : Int) : Int :=
  day - dayFromMonth (yearFromDay day) (monthFromDay day) + 1

/-- `MakeDay`: months and days may leave their year and month. -/
def makeDay (year month date : Int) : Int :=
  dayFromMonth (year + month / 12) (month % 12) + date - 1

/-- `MakeTime`. -/
def makeTime (hour minute second ms : Int) : Int :=
  hour * 3600000 + minute * 60000 + second * 1000 + ms

/-- `MakeDate`. -/
def makeDate (day time : Int) : Int :=
  day * msPerDay + time

/-! ## Local time -/

section

variable (offset : Int)

/-- `LocalTime`. -/
def localTime (time : Int) : Int :=
  time + offset

/-- `UTC`. -/
def utc (time : Int) : Int :=
  time - offset

/-- `date.getDate()`; of an invalid date it is `NaN`. -/
def getDate (date : Date) : Option Int :=
  date.map fun time => dateFromDay (day (localTime offset time.ms))

/-- `date.setDate(dayOfMonth)`. -/
def setDate (date : Date) (dayOfMonth : Int) : Date :=
  date.bind fun time =>
    let localMs := localTime offset time.ms
    let today := day localMs
    timeClip (utc offset (makeDate (makeDay (yearFromDay today) (monthFromDay today) dayOfMonth)
      (timeWithinDay localMs)))

/-- `date.setDate(date.getDate() - days)`. -/
def setDateBack (date : Date) (days : Int) : Date :=
  (getDate offset date).bind fun dayOfMonth => setDate offset date (dayOfMonth - days)

/-- `date.setHours(hour, minute, second, ms)`. -/
def setHours (date : Date) (hour minute second ms : Int) : Date :=
  date.bind fun time =>
    timeClip (utc offset (makeDate (day (localTime offset time.ms))
      (makeTime hour minute second ms)))

end

/-! ## Calendar lemmas -/

theorem timeClip_eq_some_iff {time : Int} {value : TimeValue} :
    timeClip time = some value ↔ value.ms = time := by
  unfold timeClip
  constructor
  · intro clipped
    split at clipped
    · cases clipped
      rfl
    · cases clipped
  · rintro rfl
    rw [dif_pos ⟨value.lower, value.upper⟩]

theorem timeClip_of_range {time : Int} (lower : -maxTime ≤ time) (upper : time ≤ maxTime) :
    timeClip time = some { ms := time, lower, upper } :=
  timeClip_eq_some_iff.mpr rfl

theorem yearEstimate_bounds {day estimate : Int}
    (estimated : estimate = 400 * day / 146097 + 1970) :
    dayFromYear (estimate - 1) ≤ day ∧ day < dayFromYear (estimate + 1 + 1) := by
  unfold dayFromYear
  constructor <;> omega

/-- The year of a day is the one whose first day is the last before it. -/
theorem yearFromDay_spec (day : Int) :
    dayFromYear (yearFromDay day) ≤ day ∧ day < dayFromYear (yearFromDay day + 1) := by
  have bounds := @yearEstimate_bounds day _ rfl
  unfold yearFromDay
  dsimp only
  split
  · next early => exact ⟨bounds.1, by rwa [Int.sub_add_cancel]⟩
  · next reached =>
      split
      · next late => exact ⟨late, bounds.2⟩
      · next current => exact ⟨Int.not_lt.mp reached, Int.not_le.mp current⟩

theorem monthFromDay_range (day : Int) : 0 ≤ monthFromDay day ∧ monthFromDay day < 12 := by
  have started : 0 ≤ dayWithinYear day := by
    have year := yearFromDay_spec day
    unfold dayWithinYear
    omega
  have january : ∀ leap, ∃ rest, daysBeforeMonths leap = 0 :: rest ∧ rest.length = 11 := by
    intro leap
    cases leap <;> exact ⟨_, rfl, rfl⟩
  obtain ⟨rest, months, length⟩ := january (inLeapYear (yearFromDay day))
  have later := rest.countP_le_length (p := fun first => decide (first ≤ dayWithinYear day))
  unfold monthFromDay
  rw [months, List.countP_cons_of_pos (by simpa using started)]
  omega

/-- Going back some days within a month, or out of it, is going back as many
day numbers. -/
theorem makeDay_dateFromDay_sub (today days : Int) :
    makeDay (yearFromDay today) (monthFromDay today) (dateFromDay today - days) =
      today - days := by
  obtain ⟨lower, upper⟩ := monthFromDay_range today
  have year : monthFromDay today / 12 = 0 := by omega
  have month : monthFromDay today % 12 = monthFromDay today := by omega
  rw [makeDay, year, month, Int.add_zero, dateFromDay]
  ring

theorem makeDate_day_timeWithinDay (time days : Int) :
    makeDate (day time - days) (timeWithinDay time) = time - days * msPerDay := by
  have split := Int.mul_ediv_add_emod time msPerDay
  rw [Int.mul_comm] at split
  rw [makeDate, day, timeWithinDay, Int.sub_mul]
  omega

/-- `setDate` moves a date by whole days. -/
theorem setDateBack_some (offset : Int) (time : TimeValue) (days : Int) :
    setDateBack offset (some time) days = timeClip (time.ms - days * msPerDay) := by
  have moved : setDateBack offset (some time) days =
      timeClip (utc offset (makeDate (makeDay (yearFromDay (day (localTime offset time.ms)))
        (monthFromDay (day (localTime offset time.ms)))
        (dateFromDay (day (localTime offset time.ms)) - days))
        (timeWithinDay (localTime offset time.ms)))) := rfl
  rw [moved, makeDay_dateFromDay_sub, makeDate_day_timeWithinDay, utc, localTime]
  congr 1
  ring

theorem setHours_some (offset : Int) (time : TimeValue) (hour minute second ms : Int) :
    setHours offset (some time) hour minute second ms =
      timeClip
        (day (localTime offset time.ms) * msPerDay + makeTime hour minute second ms - offset) :=
  rfl

theorem day_sub_days (time days : Int) : day (time - days * msPerDay) = day time - days := by
  unfold day msPerDay
  omega

/-- Every time of a day is that day. -/
theorem day_of_time {time : Int} (today : Int) (lower : 0 ≤ time) (upper : time < msPerDay) :
    day (today * msPerDay + time) = today := by
  unfold day msPerDay at *
  omega

end ResearchTool.EcmaScript
