import Mathlib.Data.Int.Defs

/-!
# Timestamps, durations and `i32` columns

The recovery jobs of `jobs.rs` compare `Utc::now().naive_utc()` with a stored
`NaiveDateTime` plus a `Duration::days(..)`. Both types are chrono's, and both
panic where a wrapping type would not: `Duration::days` when its number of
seconds leaves the range of a `Duration`, and `NaiveDateTime + Duration` when
the sum leaves the dates chrono represents, the years −262144 to 262143. A
wait time is an `i32` column, so the first never fires for it
(`Duration.days_of_i32`); the second can (`NaiveDateTime.add_isOk_iff`).

A `NaiveDateTime` is a count of nanoseconds since 1970-01-01T00:00:00 that
carries its range as a field, so that an out-of-range time cannot be built.
The leap-second encoding chrono allows inside a `NaiveTime` is left out: no
reading of `Utc::now()` uses it. An `i32` column likewise carries its bounds.

The tokens of `auth.rs` carry `timestamp()`, whole seconds rounded down: a
floor division of the nanosecond count, which stays within chrono's range.
`Duration::minutes` panics like `Duration::days`: when the minutes, counted
in seconds, leave an `i64`, and when those seconds leave a `Duration`.
-/

namespace BitwardenRs

/-- **An `i32` column** of the database: an integer with the bounds of its
type. -/
structure I32 where
  /-- The value. -/
  val : Int
  /-- It fits in 32 bits. -/
  range : -2147483648 ≤ val ∧ val < 2147483648
  deriving DecidableEq

/-- Nanoseconds in a day. -/
def nanosPerDay : Int := 86400000000000

/-- The day, counted from 1970-01-01, of chrono's `NaiveDate::MIN`,
−262144-01-01. -/
def minDay : Int := -96465658

/-- The day of chrono's `NaiveDate::MAX`, 262143-12-31. -/
def maxDay : Int := 95026601

/-- The first instant chrono represents, −262144-01-01T00:00:00. -/
def minNanos : Int := minDay * nanosPerDay

/-- The last instant chrono represents, 262143-12-31T23:59:59.999999999. -/
def maxNanos : Int := (maxDay + 1) * nanosPerDay - 1

/-- **A `NaiveDateTime`**: nanoseconds since the epoch, within chrono's
range. -/
structure NaiveDateTime where
  /-- Nanoseconds since 1970-01-01T00:00:00. -/
  nanos : Int
  /-- chrono cannot represent anything outside its range of dates. -/
  range : minNanos ≤ nanos ∧ nanos ≤ maxNanos
  deriving DecidableEq

namespace NaiveDateTime

instance : LE NaiveDateTime := ⟨fun a b => a.nanos ≤ b.nanos⟩

instance : LT NaiveDateTime := ⟨fun a b => a.nanos < b.nanos⟩

instance (a b : NaiveDateTime) : Decidable (a ≤ b) :=
  inferInstanceAs (Decidable (a.nanos ≤ b.nanos))

instance (a b : NaiveDateTime) : Decidable (a < b) :=
  inferInstanceAs (Decidable (a.nanos < b.nanos))

theorem le_def {a b : NaiveDateTime} : a ≤ b ↔ a.nanos ≤ b.nanos := Iff.rfl

theorem lt_def {a b : NaiveDateTime} : a < b ↔ a.nanos < b.nanos := Iff.rfl

end NaiveDateTime

/-- A chrono `Duration`, in nanoseconds. Its own bounds, `±i64::MAX`
milliseconds, are checked where one is built (`Duration.days`). -/
structure Duration where
  /-- The length in nanoseconds. -/
  nanos : Int
  deriving DecidableEq

/-- `Duration::days(days)`: `days * 86400` seconds, panicking when the
multiplication overflows an `i64` and when the seconds leave the range of a
`Duration` (`Duration::seconds`). A panic is the `error` branch, carrying the
message. -/
def Duration.days (days : Int) : Except String Duration :=
  if days * 86400 < -9223372036854775808 ∨ 9223372036854775807 < days * 86400 then
    .error "Duration::days out of bounds"
  else if days * 86400 < -9223372036854775 ∨ 9223372036854775 < days * 86400 then
    .error "Duration::seconds out of bounds"
  else .ok ⟨days * nanosPerDay⟩

/-- A day count that fits in an `i32`, or is one less than one that does,
never makes `Duration::days` panic. -/
theorem Duration.days_of_i32 {days : Int} (lo : -2147483649 ≤ days)
    (hi : days < 2147483648) : Duration.days days = .ok ⟨days * nanosPerDay⟩ := by
  unfold Duration.days
  rw [if_neg (by omega), if_neg (by omega)]

namespace NaiveDateTime

/-- `NaiveDateTime::checked_add_signed`: the sum, when chrono can represent
it. (Its early check on `2^44` seconds only ever rejects sums that are out of
range anyway.) -/
def checkedAddSigned (t : NaiveDateTime) (d : Duration) : Option NaiveDateTime :=
  if h : minNanos ≤ t.nanos + d.nanos ∧ t.nanos + d.nanos ≤ maxNanos then
    some ⟨t.nanos + d.nanos, h⟩
  else none

/-- `impl Add<Duration> for NaiveDateTime`: `checked_add_signed`, and a
panic when that overflows. -/
def add (t : NaiveDateTime) (d : Duration) : Except String NaiveDateTime :=
  match t.checkedAddSigned d with
  | some r => .ok r
  | none => .error "`NaiveDateTime + Duration` overflowed"

/-- **Adding a duration stays in range exactly when the sum is
representable**: otherwise `+` panics. -/
theorem add_isOk_iff (t : NaiveDateTime) (d : Duration) :
    (t.add d).isOk = true ↔ minNanos ≤ t.nanos + d.nanos ∧ t.nanos + d.nanos ≤ maxNanos := by
  unfold add checkedAddSigned
  by_cases h : minNanos ≤ t.nanos + d.nanos ∧ t.nanos + d.nanos ≤ maxNanos
  · simp [h, Except.isOk, Except.toBool]
  · simp [h, Except.isOk, Except.toBool]

theorem add_eq_ok {t r : NaiveDateTime} {d : Duration} (h : t.add d = .ok r) :
    r.nanos = t.nanos + d.nanos := by
  unfold add checkedAddSigned at h
  split at h <;> rename_i hc
  · split at hc
    · cases hc; cases h; rfl
    · cases hc
  · cases h

/-- `NaiveDateTime::timestamp`: the whole seconds since the epoch, rounded
down. -/
def timestamp (t : NaiveDateTime) : Int := t.nanos / 1000000000

/-- Every timestamp chrono can produce is far inside an `i64`. -/
theorem timestamp_range (t : NaiveDateTime) :
    -8334632851200 ≤ t.timestamp ∧ t.timestamp ≤ 8210298412799 := by
  have := t.range
  simp only [minNanos, maxNanos, minDay, maxDay, nanosPerDay] at this
  unfold timestamp
  omega

/-- Adding a whole number of seconds adds them to the timestamp. -/
theorem timestamp_add {t r : NaiveDateTime} {d : Duration} {k : Int} (h : t.add d = .ok r)
    (hd : d.nanos = k * 1000000000) : r.timestamp = t.timestamp + k := by
  rw [timestamp, timestamp, add_eq_ok h, hd, Int.add_mul_ediv_right _ _ (by decide)]

end NaiveDateTime

/-- `Duration::minutes(minutes)`: `minutes * 60` seconds, panicking as
`Duration::days` does. -/
def Duration.minutes (minutes : Int) : Except String Duration :=
  if minutes * 60 < -9223372036854775808 ∨ 9223372036854775807 < minutes * 60 then
    .error "Duration::minutes out of bounds"
  else if minutes * 60 < -9223372036854775 ∨ 9223372036854775 < minutes * 60 then
    .error "Duration::seconds out of bounds"
  else .ok ⟨minutes * 60000000000⟩

end BitwardenRs
