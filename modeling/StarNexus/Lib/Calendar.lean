import Mathlib.Data.Nat.Find
import Mathlib.Algebra.Order.Ring.Int
import Mathlib.Order.Monotone.Basic
import Mathlib.Tactic.Set

/-!
# Dates in a zone

Unix times, the clocks of a zone, and the Gregorian calendar, as `time.Date` and `AddDate` of Go compute with them.  Nothing
is assumed of the zone: at a midnight that its clocks skip, `time.Date` answers a time before or after it.
-/

namespace StarNexus.Lib

/-- `time.Duration(s) * time.Second` in whole seconds, rounded down: nanoseconds in an `int64`, which wrap around. -/
def durationSeconds (s : ℤ) : ℤ := (s * 1000000000).bmod (2 ^ 64) / 1000000000

/-! ### Months -/

def isLeap (year : ℤ) : Bool := (year % 4 = 0 ∧ year % 100 ≠ 0) ∨ year % 400 = 0

/-- The day on which a year begins; day 0 is the first of January 1970. -/
def yearStart (year : ℤ) : ℤ := 365 * year + (year + 3) / 4 - (year + 99) / 100 + (year + 399) / 400 - 719528

/-- The day on which a month begins, where months are counted from January of the year 0. -/
def monthStart (month : ℤ) : ℤ :=
  yearStart (month / 12) + (367 * (month % 12) + 5) / 12 -
    if month % 12 ≤ 1 then 0 else if isLeap (month / 12) then 1 else 2

/-- The months are searched around the one that months of equal length give. -/
def monthOf (day : ℤ) : ℤ :=
  let first := (day + 719528) * 4800 / 146097 - 1
  first + Nat.findGreatest (fun k => monthStart (first + k) ≤ day) 2

lemma yearStart_succ (year : ℤ) : yearStart (year + 1) = yearStart year + 365 + if isLeap year then 1 else 0 := by
  unfold yearStart isLeap
  split_ifs with h
  all_goals
    simp only [decide_eq_true_eq] at h
    omega

lemma monthStart_lt_succ (month : ℤ) : monthStart month < monthStart (month + 1) := by
  have hyear := yearStart_succ (month / 12)
  unfold monthStart
  by_cases hlast : month % 12 = 11
  · have hnext : (month + 1) / 12 = month / 12 + 1 := by omega
    have hfirst : (month + 1) % 12 = 0 := by omega
    rw [hnext, hfirst, hlast, hyear]
    split_ifs <;> omega
  · have hsame : (month + 1) / 12 = month / 12 := by omega
    have hnext : (month + 1) % 12 = month % 12 + 1 := by omega
    rw [hsame, hnext]
    split_ifs <;> omega

/-- The beginning of a month is near to what months of equal length give. -/
lemma monthStart_bounds (month : ℤ) :
    146097 * month - 20000 ≤ 4800 * (monthStart month + 719528) ∧
      4800 * (monthStart month + 719528) ≤ 146097 * month + 20000 := by
  unfold monthStart yearStart
  split_ifs <;> omega

lemma monthOf_spec (day : ℤ) : monthStart (monthOf day) ≤ day ∧ day < monthStart (monthOf day + 1) := by
  unfold monthOf
  dsimp only
  set first := (day + 719528) * 4800 / 146097 - 1 with hfirst
  have hlow : monthStart (first + (0 : ℕ)) ≤ day := by
    have hbounds := (monthStart_bounds (first + (0 : ℕ))).2
    omega
  have hhigh : day < monthStart (first + 3) := by
    have hbounds := (monthStart_bounds (first + 3)).1
    omega
  have hspec := Nat.findGreatest_spec (P := fun k => monthStart (first + k) ≤ day) (Nat.zero_le 2) hlow
  set k := Nat.findGreatest (fun k => monthStart (first + k) ≤ day) 2 with hk
  refine ⟨hspec, ?_⟩
  have hle : k ≤ 2 := Nat.findGreatest_le 2
  rcases hle.lt_or_eq with hlt | heq
  · have hnext := Nat.findGreatest_is_greatest (P := fun k => monthStart (first + k) ≤ day) (hk ▸ Nat.lt_succ_self k) hlt
    push_cast at hnext
    rw [← add_assoc] at hnext
    exact not_le.1 hnext
  · rw [heq, add_assoc]
    exact hhigh

lemma monthOf_monthStart (month : ℤ) : monthOf (monthStart month) = month := by
  obtain ⟨hlow, hhigh⟩ := monthOf_spec (monthStart month)
  have hmono : StrictMono monthStart := strictMono_int_of_lt_succ monthStart_lt_succ
  have hle := hmono.le_iff_le.1 hlow
  have hlt := hmono.lt_iff_lt.1 hhigh
  omega

/-! ### Zones -/

/-- The offset of the clocks of a zone from UTC, in seconds, at every time. -/
structure Zone where
  offset : ℤ → ℤ

namespace Zone

variable (z : Zone)

/-- What the clocks show, in seconds since the beginning of 1970. -/
def clock (t : ℤ) : ℤ := t + z.offset t

/-- `time.Date`: the offset at the reading of the clocks, as if it were UTC, gives a time, and the offset at that time is
taken. -/
def date (reading : ℤ) : ℤ := reading - z.offset (reading - z.offset reading)

/-- `time.Date` of the first second of the day that the clocks show. -/
def midnight (t : ℤ) : ℤ := z.date (86400 * (z.clock t / 86400))

/-- `AddDate(0, 0, days)`. -/
def addDays (t days : ℤ) : ℤ := z.date (z.clock t + 86400 * days)

/-- `AddDate` for months, those of the years included: the day of the month may lie in a later month. -/
def addMonths (t months : ℤ) : ℤ :=
  let day := z.clock t / 86400
  z.date (86400 * (monthStart (monthOf day + months) + (day - monthStart (monthOf day))) + z.clock t % 86400)

/-- The first day, a Thursday, is day 0. -/
def daysUntilMonday (day : ℤ) : ℤ := 7 - (day + 3) % 7

def nextDay (t : ℤ) : ℤ := z.addDays (z.midnight t) 1

def nextMonday (t : ℤ) : ℤ := z.addDays (z.midnight t) (daysUntilMonday (z.clock t / 86400))

def nextMonth (t : ℤ) : ℤ := z.addMonths (z.date (86400 * monthStart (monthOf (z.clock t / 86400)))) 1

/-- The clocks skip no midnight, and are not put back over one. -/
structure Regular : Prop where
  shown : ∀ day, z.clock (z.date (86400 * day)) = 86400 * day
  kept : ∀ day t, z.date (86400 * day) ≤ t → 86400 * day ≤ z.clock t

variable {z}

lemma Regular.lt_date (h : z.Regular) {t day : ℤ} (hlt : z.clock t < 86400 * day) : t < z.date (86400 * day) := by
  by_contra hle
  have hkept := h.kept day t (not_lt.1 hle)
  omega

lemma Regular.lt_addDays_midnight (h : z.Regular) {t days : ℤ} (hpos : 0 < days) : t < z.addDays (z.midnight t) days := by
  unfold addDays midnight
  rw [h.shown, ← mul_add]
  exact h.lt_date (by omega)

lemma Regular.lt_nextDay (h : z.Regular) (t : ℤ) : t < z.nextDay t := h.lt_addDays_midnight one_pos

lemma Regular.lt_nextMonday (h : z.Regular) (t : ℤ) : t < z.nextMonday t :=
  h.lt_addDays_midnight (by unfold daysUntilMonday; omega)

lemma Regular.lt_nextMonth (h : z.Regular) (t : ℤ) : t < z.nextMonth t := by
  have hlast := (monthOf_spec (z.clock t / 86400)).2
  have hday : 86400 * monthStart (monthOf (z.clock t / 86400)) / 86400 = monthStart (monthOf (z.clock t / 86400)) := by omega
  have htime : 86400 * monthStart (monthOf (z.clock t / 86400)) % 86400 = 0 := by omega
  simp only [nextMonth, addMonths, h.shown, hday, htime, monthOf_monthStart, sub_self, add_zero]
  exact h.lt_date (by omega)

/-- Clocks that are never changed. -/
def fixed (offset : ℤ) : Zone := ⟨fun _ => offset⟩

end Zone

end StarNexus.Lib
