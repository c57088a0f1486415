import EntityQuery.Time.Calendar

/-!
# Days and dates

`Date.ofDays` and `Date.toDays` are inverse on the dates of the calendar:
`isValid_ofDays` says that every day has a date, and `toDays_ofDays` that the date
names the day.

A day of a cycle of 400 years is a number of centuries, of groups of four years, of
years and of days (`exists_cycleParts`).  The years begin on 1 March, so only the
last year of a group has a day 365, and the last group of a century only in the last
century.  `CycleParts` keeps this, and `yearOfCycle_eq` reads the year off it.
-/

namespace EntityQuery.Date

/-! ## The parts of a cycle -/

/-- A day of a cycle, cut into `centuries`, groups of four years, years and days. -/
structure CycleParts (day centuries groups years dayOfYear : Nat) : Prop where
  sum : day = 36524 * centuries + 1461 * groups + 365 * years + dayOfYear
  centuries_le : centuries ≤ 3
  groups_le : groups ≤ 24
  years_le : years ≤ 3
  dayOfYear_le : dayOfYear ≤ 365
  /-- Day 365 is a leap day. -/
  leap : dayOfYear = 365 → years = 3 ∧ (groups < 24 ∨ centuries = 3)

theorem exists_cycleParts {day : Nat} (h : day < 146097) :
    ∃ centuries groups years dayOfYear, CycleParts day centuries groups years dayOfYear := by
  obtain ⟨centuries, hcenturies⟩ : ∃ n, n = min (day / 36524) 3 := ⟨_, rfl⟩
  obtain ⟨dayOfCentury, hcentury⟩ : ∃ n, n = day - 36524 * centuries := ⟨_, rfl⟩
  obtain ⟨years, hyears⟩ : ∃ n, n = min (dayOfCentury % 1461 / 365) 3 := ⟨_, rfl⟩
  refine ⟨centuries, dayOfCentury / 1461, years, dayOfCentury % 1461 - 365 * years, ?_⟩
  have hbound : dayOfCentury ≤ 36524 ∧ (centuries < 3 → dayOfCentury < 36524) := by omega
  exact ⟨by omega, by omega, by omega, by omega, by omega, by omega⟩

variable {day centuries groups years dayOfYear : Nat}

/-- The number of a year in its cycle. -/
def yearNumber (centuries groups years : Nat) : Nat := 100 * centuries + 4 * groups + years

/-- The formula for the year of a day in its cycle. -/
theorem yearOfCycle_eq (h : CycleParts day centuries groups years dayOfYear) :
    (day - day / 1460 + day / 36524 - day / 146096) / 365 =
      yearNumber centuries groups years := by
  obtain ⟨hsum, hcenturies, hgroups, hyears, hday, hleap⟩ := h
  have hfour : day / 1460 = 25 * centuries + groups +
      (24 * centuries + groups + 365 * years + dayOfYear) / 1460 := by omega
  have hcarry : day / 36524 - day / 146096 = centuries := by omega
  have hcarry' : day / 146096 ≤ day / 36524 := by omega
  unfold yearNumber
  omega

/-- The days of the cycle before a year. -/
theorem daysBefore_yearNumber (hgroups : groups ≤ 24) (hyears : years ≤ 3) :
    365 * yearNumber centuries groups years + yearNumber centuries groups years / 4 -
      yearNumber centuries groups years / 100 =
      36524 * centuries + 1461 * groups + 365 * years := by
  unfold yearNumber
  omega

/-- A year of the calendar that ends with the given year of a cycle is a leap year if the
year is the last of a full group. -/
theorem isLeap_of_parts {cycle : Int} (hyears : years = 3)
    (hgroups : groups < 24 ∨ groups = 24 ∧ centuries = 3) :
    isLeap (yearNumber centuries groups years + cycle * 400 + 1) = true := by
  simp only [isLeap, yearNumber, Bool.and_eq_true, Bool.or_eq_true, beq_iff_eq, bne_iff_ne]
  omega

/-! ## The parts of a year -/

/-- The month of a year that begins on 1 March, counted from there, and the days before it. -/
theorem exists_month {dayOfYear : Nat} (h : dayOfYear ≤ 365) :
    ∃ index before, index ≤ 11 ∧ before = (153 * index + 2) / 5 ∧ before ≤ dayOfYear ∧
      dayOfYear < (153 * (index + 1) + 2) / 5 ∧
      ofDayOfYear dayOfYear =
        (if index < 10 then (index + 3, dayOfYear - before + 1, false)
        else (index - 9, dayOfYear - before + 1, true)) :=
  ⟨(5 * dayOfYear + 2) / 153, _, by omega, rfl, by omega, by omega, rfl⟩

/-! ## Days and dates -/

/-- The parts of a day, and the date that they make: in the year of the cycle from March on, and
in the next one before. -/
theorem exists_parts (days : Int) :
    ∃ (cycle : Int) (day centuries groups years dayOfYear index before : Nat),
      days + 719468 = cycle * 146097 + day ∧
      CycleParts day centuries groups years dayOfYear ∧
      index ≤ 11 ∧ before = (153 * index + 2) / 5 ∧ before ≤ dayOfYear ∧
      dayOfYear < (153 * (index + 1) + 2) / 5 ∧
      ofDays days =
        if index < 10 then
          ⟨yearNumber centuries groups years + cycle * 400, index + 3, dayOfYear - before + 1⟩
        else
          ⟨yearNumber centuries groups years + cycle * 400 + 1, index - 9,
            dayOfYear - before + 1⟩ := by
  obtain ⟨day, hday⟩ : ∃ day, day = ((days + 719468) % 146097).toNat := ⟨_, rfl⟩
  have hlt : day < 146097 := by omega
  obtain ⟨centuries, groups, years, dayOfYear, hparts⟩ := exists_cycleParts hlt
  obtain ⟨index, before, hindex, hbefore, hle, hnext, hmonth⟩ :=
    exists_month hparts.dayOfYear_le
  refine ⟨(days + 719468) / 146097, day, centuries, groups, years, dayOfYear, index, before,
    by omega, hparts, hindex, hbefore, hle, hnext, ?_⟩
  have hyear := yearOfCycle_eq hparts
  have hrest : day - (365 * yearNumber centuries groups years +
      yearNumber centuries groups years / 4 - yearNumber centuries groups years / 100) =
      dayOfYear := by
    rw [daysBefore_yearNumber hparts.groups_le hparts.years_le, hparts.sum]
    omega
  have hcycle : ((cycleDays : Nat) : Int) = 146097 := rfl
  simp only [ofDays, epochOffset, hcycle, ← hday, hyear, hrest, hmonth]
  split
  · simp
  · simp

/-- Every day has a date of the calendar. -/
theorem isValid_ofDays (days : Int) : (ofDays days).isValid = true := by
  obtain ⟨cycle, day, centuries, groups, years, dayOfYear, index, before, _, hparts, hindex,
    hbefore, hle, hnext, hdate⟩ := exists_parts days
  rw [hdate]
  split
  · next hmarch =>
    simp only [isValid, monthDays, Bool.and_eq_true, decide_eq_true_eq]
    refine ⟨⟨⟨by omega, by omega⟩, by omega⟩, ?_⟩
    split
    · omega
    · split
      · omega
      · omega
  · next hjanuary =>
    simp only [isValid, monthDays, Bool.and_eq_true, decide_eq_true_eq]
    refine ⟨⟨⟨by omega, by omega⟩, by omega⟩, ?_⟩
    split
    · have hlast := hparts.dayOfYear_le
      split
      · omega
      · next hleap =>
        -- the 29 February is day 365
        have hshort : dayOfYear ≠ 365 := by
          intro hday
          have hfull := hparts.leap hday
          have hgroups := hparts.groups_le
          exact hleap (isLeap_of_parts hfull.1 (by omega))
        omega
    · split
      · omega
      · omega

/-- The date of a day names the day. -/
theorem toDays_ofDays (days : Int) : (ofDays days).toDays = days := by
  obtain ⟨cycle, day, centuries, groups, years, dayOfYear, index, before, hdays, hparts, hindex,
    hbefore, hle, hnext, hdate⟩ := exists_parts days
  have hstart := @daysBefore_yearNumber centuries _ _ hparts.groups_le hparts.years_le
  have hsum := hparts.sum
  have hnumber : yearNumber centuries groups years < 400 := by
    have := hparts.centuries_le
    have := hparts.groups_le
    have := hparts.years_le
    unfold yearNumber
    omega
  have hcycle : ((cycleDays : Nat) : Int) = 146097 := rfl
  generalize yearNumber centuries groups years = number at *
  have hquotient : ((number : Int) + cycle * 400) / 400 = cycle := by omega
  have hremainder : (((number : Int) + cycle * 400) % 400).toNat = number := by omega
  rw [hdate]
  split
  · next hmarch =>
    have hmonth : ¬index + 3 ≤ 2 := by omega
    simp only [toDays, if_neg hmonth, hquotient, hremainder, epochOffset, hcycle,
      Nat.add_sub_cancel]
    omega
  · next hjanuary =>
    have hmonth : index - 9 ≤ 2 := by omega
    simp only [toDays, if_pos hmonth, Int.add_sub_cancel, hquotient, hremainder, epochOffset,
      hcycle]
    have hindex' : index - 9 + 9 = index := by omega
    rw [hindex']
    omega

end EntityQuery.Date
