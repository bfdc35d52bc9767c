import Mathlib.Tactic.IntervalCases
import Mathlib.Tactic.SplitIfs
import ResourceBroker.Timestamp

/-!
The calendar date of a day is valid, and leads back to the day. Days are numbered within an era of 400
years, and each era begins with the first of March.
-/

namespace ResourceBroker.CalendarDate

def yearOfEra (day : Nat) : Nat :=
  (day - day / 1460 + day / 36524 - day / 146096) / 365

def daysBefore (year : Nat) : Nat := 365 * year + year / 4 - year / 100

/-- The year of a day has begun by that day, and ends with a 366th day only before a leap year. -/
theorem yearOfEra_spec {day : Nat} (h : day < 146097) :
    yearOfEra day ≤ 399 ∧ daysBefore (yearOfEra day) ≤ day ∧
      day - daysBefore (yearOfEra day) ≤ 365 ∧
      (day - daysBefore (yearOfEra day) = 365 → (yearOfEra day + 1) % 4 = 0 ∧
        ((yearOfEra day + 1) % 100 = 0 → yearOfEra day = 399)) := by
  unfold daysBefore
  generalize hyear : yearOfEra day = year
  rw [yearOfEra] at hyear
  obtain ⟨quad, rest, hquad, hday, hrest⟩ : ∃ quad rest, day / 1460 = quad ∧
      day = 1460 * quad + rest ∧ rest < 1460 := ⟨day / 1460, day % 1460, by omega⟩
  have hcentury : day / 36524 ≤ 4 := by omega
  have hera : day / 146096 = day / 36524 / 4 := by omega
  have hfourth : year % 4 < 4 := Nat.mod_lt _ (by decide)
  rw [hquad, hera] at hyear
  generalize hcenturies : day / 36524 = century at hcentury hyear
  have hhundreds : year / 100 = century - century / 4 := by
    interval_cases century <;> omega
  have hbegun : year ≤ 399 ∧ 365 * year + year / 4 - year / 100 ≤ day ∧
      day - (365 * year + year / 4 - year / 100) ≤ 365 := by
    interval_cases century <;> omega
  refine ⟨hbegun.1, hbegun.2.1, hbegun.2.2, fun hlast => ?_⟩
  generalize hfourths : year % 4 = fourth at hfourth
  -- once the century and the place among four years are known, the rest is linear
  interval_cases century <;> interval_cases fourth <;> omega

/-- The date of a day of an era, in months that are counted from March. -/
def ofShifted (era : Int) (year day : Nat) : CalendarDate :=
  let shifted := (5 * day + 2) / 153
  let month := if shifted < 10 then shifted + 3 else shifted - 9
  ⟨if month ≤ 2 then year + era * 400 + 1 else year + era * 400, month,
    day - (153 * shifted + 2) / 5 + 1⟩

theorem exists_ofDays (days : Int) : ∃ era year day, ofDays days = ofShifted era year day ∧
    year ≤ 399 ∧ day ≤ 365 ∧ era * 146097 + (daysBefore year + day) = days + 719468 ∧
    (day = 365 → (year + 1) % 4 = 0 ∧ ((year + 1) % 100 = 0 → year = 399)) := by
  have hera : ((days + 719468) % 146097).toNat < 146097 := by omega
  obtain ⟨hyear, hbegun, hday, hleap⟩ := yearOfEra_spec hera
  generalize hdayOfEra : ((days + 719468) % 146097).toNat = dayOfEra at hyear hbegun hday hleap
  refine ⟨(days + 719468) / 146097, yearOfEra dayOfEra, dayOfEra - daysBefore (yearOfEra dayOfEra),
    hdayOfEra ▸ rfl, hyear, hday, ?_, hleap⟩
  omega

theorem toDays_ofShifted {year day : Nat} (hyear : year ≤ 399) (hday : day ≤ 365) (era : Int) :
    toDays (ofShifted era year day) = era * 146097 + (daysBefore year + day) - 719468 := by
  have hera : (year + era * 400) / 400 = era := by omega
  have hyearOfEra : (year + era * 400) % 400 = year := by omega
  unfold toDays ofShifted daysBefore
  dsimp only
  generalize hshifted : (5 * day + 2) / 153 = shifted
  by_cases hmarch : shifted < 10
  · have hmonth : ¬shifted + 3 ≤ 2 := by omega
    have hback : ((shifted + 3 : Nat) + 9 : Int) % 12 = shifted := by omega
    simp only [hmarch, hmonth, if_true, if_false, hera, hyearOfEra, hback]
    omega
  · have hmonth : shifted - 9 ≤ 2 := by omega
    have hback : ((shifted - 9 : Nat) + 9 : Int) % 12 = shifted := by omega
    simp only [hmarch, hmonth, if_true, if_false, Int.add_sub_cancel, hera, hyearOfEra, hback]
    omega

theorem toDays_ofDays (days : Int) : toDays (ofDays days) = days := by
  obtain ⟨era, year, day, hdate, hyear, hday, hvalue, -⟩ := exists_ofDays days
  rw [hdate, toDays_ofShifted hyear hday]
  omega

theorem isLeap_of_era {era : Int} {year : Nat} (hfourth : (year + 1) % 4 = 0)
    (hhundred : (year + 1) % 100 = 0 → year = 399) : isLeap (year + era * 400 + 1) := by
  have hfour : (year + era * 400 + 1) % 4 = 0 := by omega
  by_cases hcentury : (year + 1) % 100 = 0
  · have hyear := hhundred hcentury
    have hall : (year + era * 400 + 1) % 400 = 0 := by omega
    simp [isLeap, hall]
  · have hother : (year + era * 400 + 1) % 100 ≠ 0 := by omega
    simp [isLeap, hfour, hother]

theorem day_ofShifted_le {era : Int} {year day : Nat} (hday : day ≤ 365)
    (hleap : day = 365 → (year + 1) % 4 = 0 ∧ ((year + 1) % 100 = 0 → year = 399)) :
    (ofShifted era year day).day ≤
      daysInMonth (ofShifted era year day).year (ofShifted era year day).month := by
  unfold ofShifted
  dsimp only
  generalize hshifted : (5 * day + 2) / 153 = shifted
  have hmonth : shifted ≤ 11 := by omega
  by_cases hfebruary : shifted = 11
  · subst hfebruary
    by_cases hlast : day = 365
    · obtain ⟨hfourth, hhundred⟩ := hleap hlast
      simp [daysInMonth, isLeap_of_era hfourth hhundred, hlast]
    · show _ ≤ daysInMonth _ 2
      rw [daysInMonth]
      split_ifs <;> omega
  · interval_cases shifted <;> simp [daysInMonth] <;> omega

theorem isValid_ofDays {days : Int} (h : inRange (ofDays days).year) : (ofDays days).isValid := by
  obtain ⟨era, year, day, hdate, -, hday, -, hleap⟩ := exists_ofDays days
  have hlength := @day_ofShifted_le era year day hday hleap
  rw [← hdate] at hlength
  have hmonth : 1 ≤ (ofDays days).month ∧ (ofDays days).month ≤ 12 := by
    rw [hdate, ofShifted]
    dsimp only
    split <;> omega
  have hfirst : 1 ≤ (ofDays days).day := Nat.le_add_left ..
  simp [isValid, h, hmonth, hfirst, hlength]

end ResourceBroker.CalendarDate
