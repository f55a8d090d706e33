import CredentialRotation.Time.Instant
import CredentialRotation.Time.Calendar
import Mathlib.Tactic.SplitIfs

/-!
# Days and their dates

Every day has a date of the calendar, and the date has that day again.

A day is taken apart from the top: the era of four hundred years it lies
in, the year of that, the month and the day of the month, where years run
from March to February. A century has one leap day less than a quarter of
its years, except that the fourth has its full share; so a year cannot be
read off a day by one division, and `exists_centuryDay` splits a day by
century, four years and year first. With those at hand
(`isDayOf_yearOfEra`) all that is left is linear.
-/

namespace CredentialRotation.Calendar

variable {day doe doy yoe : Int}

/-! ## Years -/

/-- The days of an era before its year `yoe`. -/
def daysBefore (yoe : Int) : Int := 365 * yoe + yoe / 4 - yoe / 100

/-- The day `doy` of the year `yoe` of an era, the last one of a year only
where that year ends with a leap day. -/
structure IsDayOf (yoe doy : Int) : Prop where
  yoe_nonneg : 0 ≤ yoe
  yoe_lt : yoe < 400
  doy_nonneg : 0 ≤ doy
  doy_le : doy ≤ 365
  leap : doy = 365 → yoe % 4 = 3 ∧ (yoe % 100 = 99 → yoe = 399)

/-- The year of a day of an era. -/
def yearOfEra (doe : Int) : Int := (doe - doe / 1460 + doe / 36524 - doe / 146096) / 365

/-- A day of an era by its century `a`, the four years `b` of that, the
year `c` of those, and the day of the year. -/
theorem exists_centuryDay (h₀ : 0 ≤ doe) (h₁ : doe < 146097) : ∃ a b c doy : Int,
    doe = 36524 * a + 1461 * b + 365 * c + doy
      ∧ 0 ≤ a ∧ a ≤ 3 ∧ 0 ≤ b ∧ b ≤ 24 ∧ 0 ≤ c ∧ c ≤ 3 ∧ 0 ≤ doy
      ∧ (doy < 365 ∨ (doy = 365 ∧ c = 3 ∧ (b = 24 → a = 3))) := by
  -- the last day of an era belongs to its fourth century
  obtain ⟨a, ha⟩ : ∃ a, a = min (doe / 36524) 3 := ⟨_, rfl⟩
  obtain ⟨m, hm⟩ : ∃ m, m = doe - 36524 * a := ⟨_, rfl⟩
  obtain ⟨b, hb⟩ : ∃ b, b = m / 1461 := ⟨_, rfl⟩
  obtain ⟨r, hr⟩ : ∃ r, r = m - 1461 * b := ⟨_, rfl⟩
  -- and the last day of four years to the fourth of them
  obtain ⟨c, hc⟩ : ∃ c, c = min (r / 365) 3 := ⟨_, rfl⟩
  have hm' : 0 ≤ m ∧ m ≤ 36524 ∧ (m = 36524 → a = 3) := by omega
  have hb' : 0 ≤ b ∧ b ≤ 24 := by omega
  have hr' : 0 ≤ r ∧ r ≤ 1460 := by omega
  refine ⟨a, b, c, r - 365 * c, ?_, ?_, ?_, ?_, ?_, ?_, ?_, ?_, ?_⟩ <;> omega

/-- **The year of a day of an era.** -/
theorem isDayOf_yearOfEra (doe : Int) (h₀ : 0 ≤ doe) (h₁ : doe < 146097) :
    IsDayOf (yearOfEra doe) (doe - daysBefore (yearOfEra doe)) := by
  obtain ⟨a, b, c, doy, hdoe, ha, ha', hb, hb', hc, hc', hdoy, hleap⟩ := exists_centuryDay h₀ h₁
  have hyear : yearOfEra doe = 100 * a + 4 * b + c := by
    have h1460 : doe / 1460 = 25 * a + b ∨ doe / 1460 = 25 * a + b + 1 := by omega
    have h36524 : doe / 36524 = a ∨ doe / 36524 = a + 1 := by omega
    unfold yearOfEra
    omega
  have hbefore : daysBefore (yearOfEra doe) = doe - doy := by
    unfold daysBefore
    omega
  refine ⟨by omega, by omega, by omega, by omega, fun h => ⟨by omega, by omega⟩⟩

/-! ## Months -/

/-- The days of a year before its month `mp`, counted from March. -/
def daysBeforeMonth (mp : Int) : Int := (153 * mp + 2) / 5

/-- The day `dom` of the month `mp` of a year, the months counted from
March. -/
structure IsDayOfMonth (doy mp dom : Int) : Prop where
  mp_nonneg : 0 ≤ mp
  mp_le : mp ≤ 11
  dom_pos : 1 ≤ dom
  eq_add : doy = daysBeforeMonth mp + (dom - 1)
  lt_next : doy < daysBeforeMonth (mp + 1)

/-- **The month of a day of the year.** -/
theorem isDayOfMonth (h₀ : 0 ≤ doy) (h₁ : doy ≤ 365) :
    IsDayOfMonth doy ((5 * doy + 2) / 153) (doy - daysBeforeMonth ((5 * doy + 2) / 153) + 1) := by
  refine ⟨by omega, by omega, ?_, by omega, ?_⟩ <;>
  · unfold daysBeforeMonth
    omega

/-- The date in an era: a year that starts in March ends in the next one
of the calendar. -/
def dateIn (era yoe mp dom : Int) : Date :=
  let m := if mp < 10 then mp + 3 else mp - 9
  ⟨yoe + era * 400 + (if m ≤ 2 then 1 else 0), m.toNat, dom.toNat⟩

/-- **A day, taken apart.** -/
theorem exists_dateIn (day : Int) : ∃ era yoe doy mp dom : Int,
    day + 719468 = era * 146097 + daysBefore yoe + doy ∧ IsDayOf yoe doy
      ∧ IsDayOfMonth doy mp dom ∧ dateOfDay day = dateIn era yoe mp dom := by
  have hyear := isDayOf_yearOfEra ((day + 719468) % 146097) (by omega) (by omega)
  refine ⟨(day + 719468) / 146097, _, _, _, _, by omega, hyear,
    isDayOfMonth hyear.doy_nonneg hyear.doy_le, rfl⟩

/-! ## Dates -/

variable {era mp dom : Int}

/-- The day of a date in an era. -/
theorem dayOfDate_dateIn (hy : IsDayOf yoe doy) (hm : IsDayOfMonth doy mp dom) :
    dayOfDate (dateIn era yoe mp dom) = era * 146097 + daysBefore yoe + doy - 719468 := by
  obtain ⟨hyoe, hyoe', -, -, -⟩ := hy
  obtain ⟨hmp, hmp', hdom, heq, -⟩ := hm
  unfold daysBeforeMonth at heq
  unfold daysBefore dateIn dayOfDate
  dsimp only
  split <;> split <;> omega

/-- **The date of a day has that day.** -/
theorem dayOfDate_dateOfDay (day : Int) : dayOfDate (dateOfDay day) = day := by
  obtain ⟨era, yoe, doy, mp, dom, hday, hy, hm, hdate⟩ := exists_dateIn day
  rw [hdate, dayOfDate_dateIn hy hm]
  omega

theorem isLeapYear_iff {y : Int} :
    isLeapYear y = true ↔ y % 4 = 0 ∧ (y % 100 = 0 → y % 400 = 0) := by
  simp only [isLeapYear, Bool.and_eq_true, Bool.or_eq_true, decide_eq_true_eq,
    Decidable.or_iff_not_imp_left, Decidable.not_not]

theorem Date.isValid_iff {d : Date} : d.isValid = true ↔
    1 ≤ d.month ∧ d.month ≤ 12 ∧ 1 ≤ d.day ∧ d.day ≤ daysInMonth d.year d.month := by
  simp only [isValid, Bool.and_eq_true, decide_eq_true_eq, and_assoc]

theorem daysInMonth_le (y : Int) (m : Nat) : daysInMonth y m ≤ 31 := by
  unfold daysInMonth
  split
  · split <;> decide
  · split <;> decide

/-- **The date of a day is one of the calendar.** -/
theorem isValid_dateOfDay (day : Int) : (dateOfDay day).isValid = true := by
  obtain ⟨era, yoe, doy, mp, dom, -, hy, hm, hdate⟩ := exists_dateIn day
  obtain ⟨hyoe, hyoe', hdoy, hdoy', hleap⟩ := hy
  obtain ⟨hmp, hmp', hdom, heq, hlt⟩ := hm
  unfold daysBeforeMonth at heq hlt
  rw [hdate, Date.isValid_iff]
  simp only [dateIn, daysInMonth, isLeapYear_iff]
  refine ⟨by omega, by omega, by omega, ?_⟩
  -- the last month is the shorter one, by a day unless its year is a leap year
  split_ifs <;> omega

/-- The years of the calendar are those of its days. -/
theorem year_dateOfDay_bounds (h₀ : Instant.minSecs / 86400 ≤ day)
    (h₁ : day ≤ Instant.maxSecs / 86400) :
    minYear ≤ (dateOfDay day).year ∧ (dateOfDay day).year ≤ maxYear := by
  obtain ⟨era, yoe, doy, mp, dom, hday, hy, hm, hdate⟩ := exists_dateIn day
  rw [hdate]
  obtain ⟨hyoe, hyoe', hdoy, hdoy', hleap⟩ := hy
  obtain ⟨hmp, hmp', hdom, heq, hlt⟩ := hm
  unfold daysBeforeMonth at heq hlt
  unfold daysBefore at hday
  simp only [Instant.minSecs, Instant.maxSecs] at h₀ h₁
  simp only [dateIn, minYear, maxYear]
  -- only in the first and the last era does the year of the era count
  have hera : era < -656 ∨ era = -656 ∨ (-656 < era ∧ era < 655) ∨ era = 655 ∨ 655 < era := by
    omega
  rcases hera with h | rfl | h | rfl | h <;> constructor <;> split <;> split <;> omega

end CredentialRotation.Calendar
