import LoginGate.Timestamp
import Mathlib.Tactic.IntervalCases

/-! # Days and dates

Every day since the start of 1970 has a date that exists, and the date leads back to the day. Within
an era of 400 years the year of a day is found by leaving out the leap days before it
(`commonDays`): the days of the first `n` years are then at least `365 * n`, and those of fewer
days less.
-/

namespace LoginGate.Date

/-- The days of that many years, counted from the first of March before an era. -/
def daysBeforeYear (year : Int) : Int :=
  365 * year + year / 4 - year / 100 + year / 400

/-- A number of days of an era without its leap days. -/
def commonDays (days : Int) : Int :=
  days - days / 1460 + days / 36524 - days / 146096

theorem commonDays_mono {fewer more : Int} (le : fewer ≤ more) :
    commonDays fewer ≤ commonDays more := by
  have quarter (days : Int) : days / 146096 = days / 36524 / 4 := by omega
  have years : fewer - fewer / 1460 ≤ more - more / 1460 := by omega
  have centuries : fewer / 36524 ≤ more / 36524 := by omega
  rw [commonDays, commonDays, quarter, quarter]
  omega

/-- Years begin where their common days do. -/
private theorem boundary (year : Fin 401) :
    365 * (year : Int) ≤ commonDays (daysBeforeYear year) ∧
      (0 < (year : Int) → commonDays (daysBeforeYear year - 1) < 365 * (year : Int)) := by
  revert year
  decide +kernel

/-- A day of an era lies in a year or after it. -/
theorem daysBeforeYear_le_iff {year days : Int} (first : 0 ≤ year) (last : year ≤ 400)
    (inEra : 0 ≤ days) : daysBeforeYear year ≤ days ↔ 365 * year ≤ commonDays days := by
  obtain ⟨n, rfl⟩ := Int.eq_ofNat_of_zero_le first
  have bounds := boundary ⟨n, by omega⟩
  dsimp only at bounds
  constructor
  · intro reached
    exact Int.le_trans bounds.1 (commonDays_mono reached)
  · intro reached
    by_contra before
    rcases Nat.eq_zero_or_pos n with rfl | positive
    · exact before inEra
    · have fewer := commonDays_mono (Int.le_sub_one_of_lt (Int.not_le.mp before))
      have short := bounds.2 (by omega)
      omega

theorem yearOfEra_spec {days : Int} (first : 0 ≤ days) (last : days < 146097) :
    let year := commonDays days / 365
    0 ≤ year ∧ year < 400 ∧ daysBeforeYear year ≤ days ∧ days < daysBeforeYear (year + 1) := by
  intro year
  have some : 365 * 0 ≤ commonDays days :=
    (daysBeforeYear_le_iff (Int.le_refl 0) (by decide) first).mp first
  have few : ¬ 365 * 400 ≤ commonDays days := fun many =>
    Int.not_le.mpr last ((daysBeforeYear_le_iff (by decide) (by decide) first).mpr many)
  have bounds : 0 ≤ year ∧ year < 400 := by omega
  refine ⟨bounds.1, bounds.2, ?_, Int.not_le.mp fun reached => ?_⟩
  · exact (daysBeforeYear_le_iff bounds.1 (by omega) first).mpr (by omega)
  · have more := (daysBeforeYear_le_iff (by omega) (by omega) first).mp reached
    omega

/-- The date of a day of a month, both counted from the March of a year. -/
def fromMarch (year monthIndex day : Int) : Date :=
  let month := if monthIndex < 10 then monthIndex + 3 else monthIndex - 9
  ⟨if month ≤ 2 then year + 1 else year, month.toNat, day.toNat⟩

theorem toDays_fromMarch {year monthIndex day : Int} (first : 0 ≤ monthIndex)
    (last : monthIndex < 12) (positive : 0 ≤ day) :
    (fromMarch year monthIndex day).toDays =
      daysBeforeYear year + daysBeforeMonth monthIndex + day - 719469 := by
  have sameYear : (if (fromMarch year monthIndex day).month ≤ 2 then
      (fromMarch year monthIndex day).year - 1 else (fromMarch year monthIndex day).year) =
        year := by
    simp only [fromMarch]
    split <;> split <;> omega
  have sameMonth : (((fromMarch year monthIndex day).month : Int) + 9) % 12 = monthIndex := by
    simp only [fromMarch]
    omega
  have sameDay : ((fromMarch year monthIndex day).day : Int) = day := Int.toNat_of_nonneg positive
  rw [toDays, sameYear, sameMonth, sameDay, daysBeforeYear]
  omega

theorem daysBeforeYear_succ (year : Int) :
    daysBeforeYear (year + 1) =
      daysBeforeYear year + if isLeapYear (year + 1) then 366 else 365 := by
  simp only [daysBeforeYear, isLeapYear, Bool.and_eq_true, Bool.or_eq_true, beq_iff_eq, bne_iff_ne]
  split <;> omega

/-- A month ends before the next one begins, and February with the year. -/
theorem le_monthLength {year dayOfYear : Int} (first : 0 ≤ dayOfYear)
    (last : dayOfYear < if isLeapYear (year + 1) then 366 else 365) :
    let monthIndex := (5 * dayOfYear + 2) / 153
    let date := fromMarch year monthIndex (dayOfYear - daysBeforeMonth monthIndex + 1)
    date.day ≤ monthLength date.year date.month := by
  intro monthIndex
  have begun : 153 * monthIndex ≤ 5 * dayOfYear + 2 := by omega
  have ends : 5 * dayOfYear + 2 < 153 * (monthIndex + 1) := by omega
  have lower : 0 ≤ monthIndex := by omega
  have upper : monthIndex ≤ 11 := by
    split at last <;> omega
  clear_value monthIndex
  simp only [fromMarch, daysBeforeMonth]
  cases leap : isLeapYear (year + 1) with
  | false =>
    rw [leap, if_neg Bool.false_ne_true] at last
    interval_cases monthIndex <;> simp [monthLength, leap] <;> omega
  | true =>
    rw [leap, if_pos rfl] at last
    interval_cases monthIndex <;> simp [monthLength, leap] <;> omega

theorem isValid_fromMarch {year monthIndex day : Int} (first : 0 ≤ monthIndex)
    (last : monthIndex < 12) (positive : 1 ≤ day)
    (within : (fromMarch year monthIndex day).day ≤
      monthLength (fromMarch year monthIndex day).year (fromMarch year monthIndex day).month) :
    (fromMarch year monthIndex day).isValid = true := by
  have month : 1 ≤ (fromMarch year monthIndex day).month ∧
      (fromMarch year monthIndex day).month ≤ 12 := by
    simp only [fromMarch]
    omega
  have day : 1 ≤ (fromMarch year monthIndex day).day := by
    simp only [fromMarch]
    omega
  simp only [isValid, Bool.and_eq_true, decide_eq_true_eq]
  exact ⟨⟨month, day⟩, within⟩

theorem daysBeforeYear_add_era (year era : Int) :
    daysBeforeYear (year + era * 400) = daysBeforeYear year + era * 146097 := by
  rw [daysBeforeYear, daysBeforeYear]
  omega

/-- A day lies in a year that begins in March. -/
theorem exists_ofDays (days : Int) :
    ∃ year dayOfYear : Int, 0 ≤ dayOfYear ∧
      dayOfYear < (if isLeapYear (year + 1) then 366 else 365) ∧
      days = daysBeforeYear year + dayOfYear - 719468 ∧
      ofDays days =
        let monthIndex := (5 * dayOfYear + 2) / 153
        fromMarch year monthIndex (dayOfYear - daysBeforeMonth monthIndex + 1) := by
  obtain ⟨era, whole⟩ : ∃ era, era = (days + 719468) / 146097 := ⟨_, rfl⟩
  obtain ⟨dayOfEra, left⟩ : ∃ dayOfEra, dayOfEra = (days + 719468) % 146097 := ⟨_, rfl⟩
  obtain ⟨yearOfEra, common⟩ : ∃ year, year = commonDays dayOfEra / 365 := ⟨_, rfl⟩
  have bounds : 0 ≤ dayOfEra ∧ dayOfEra < 146097 := by omega
  obtain ⟨first, last, begun, ends⟩ := yearOfEra_spec bounds.1 bounds.2
  rw [← common] at first last begun ends
  have year : daysBeforeYear (yearOfEra + era * 400) = daysBeforeYear yearOfEra + era * 146097 :=
    daysBeforeYear_add_era yearOfEra era
  have next : daysBeforeYear (yearOfEra + 1 + era * 400) =
      daysBeforeYear (yearOfEra + 1) + era * 146097 := daysBeforeYear_add_era (yearOfEra + 1) era
  have length := daysBeforeYear_succ (yearOfEra + era * 400)
  rw [Int.add_right_comm] at length
  refine ⟨yearOfEra + era * 400, dayOfEra - daysBeforeYear yearOfEra, by omega, ?_, by omega, ?_⟩
  · rw [Int.add_right_comm]
    omega
  · have start : daysBeforeYear yearOfEra = 365 * yearOfEra + yearOfEra / 4 - yearOfEra / 100 := by
      rw [daysBeforeYear]
      omega
    rw [start, common, left, whole]
    rfl

/-- No month or day of a date takes more than two digits. -/
theorem bounds_of_isValid {date : Date} (valid : date.isValid = true) :
    1 ≤ date.month ∧ date.month ≤ 12 ∧ 1 ≤ date.day ∧ date.day ≤ 31 := by
  simp only [isValid, Bool.and_eq_true, decide_eq_true_eq] at valid
  obtain ⟨⟨month, day⟩, within⟩ := valid
  have longest : monthLength date.year date.month ≤ 31 := by
    unfold monthLength
    split
    · split <;> decide
    all_goals decide
  exact ⟨month.1, month.2, day, Nat.le_trans within longest⟩

/-- The date of a day exists and leads back to the day. -/
theorem ofDays_spec (days : Int) : (ofDays days).isValid = true ∧ (ofDays days).toDays = days := by
  obtain ⟨year, dayOfYear, first, last, counted, date⟩ := exists_ofDays days
  have within := le_monthLength first last
  have upper : dayOfYear < 366 := by
    split at last <;> omega
  rw [date]
  dsimp only at within ⊢
  obtain ⟨monthIndex, month⟩ : ∃ index, index = (5 * dayOfYear + 2) / 153 := ⟨_, rfl⟩
  rw [← month] at within ⊢
  have positive : 0 ≤ dayOfYear - daysBeforeMonth monthIndex := by
    rw [daysBeforeMonth]
    omega
  exact ⟨isValid_fromMarch (by omega) (by omega) (by omega) within,
    (toDays_fromMarch (by omega) (by omega) (by omega)).trans (by omega)⟩

end LoginGate.Date
