import Mathlib.Tactic.IntervalCases

/-! The Gregorian calendar as a count of days. Years are counted from March, so that the leap day comes last, and in eras
of 400 of them. -/
namespace Library.Calendar

def yearOfEra (dayOfEra : Int) : Int := (dayOfEra - dayOfEra / 1460 + dayOfEra / 36524 - dayOfEra / 146096) / 365

def yearStart (year : Int) : Int := 365 * year + year / 4 - year / 100

variable (days : Int)

def civil : Int × Int × Int :=
  let shifted := days + 719468
  let era := shifted.fdiv 146097
  let dayOfEra := shifted - era * 146097
  let dayOfYear := dayOfEra - yearStart (yearOfEra dayOfEra)
  let month := (5 * dayOfYear + 2) / 153
  let day := dayOfYear - (153 * month + 2) / 5 + 1
  let civilMonth := if month < 10 then month + 3 else month - 9
  (yearOfEra dayOfEra + era * 400 + (if civilMonth ≤ 2 then 1 else 0),civilMonth,day)

def ordinal (year month day : Int) : Int :=
  let shifted := if month ≤ 2 then year - 1 else year
  let era := shifted.fdiv 400
  let yearOfEra := shifted - era * 400
  let dayOfYear := (153 * (if month > 2 then month - 3 else month + 9) + 2) / 5 + day - 1
  era * 146097 + (yearOfEra * 365 + yearOfEra / 4 - yearOfEra / 100 + dayOfYear) - 719468

def leap (year : Int) : Bool := year % 4 = 0 && (year % 100 ≠ 0 || year % 400 = 0)

def monthDays (year month : Int) : Int :=
  if month = 2 then (if leap year then 29 else 28)
  else if month = 4 ∨ month = 6 ∨ month = 9 ∨ month = 11 then 30
  else 31

theorem monthDays_le (year month : Int) : monthDays year month ≤ 31 := by
  unfold monthDays
  split_ifs <;> omega

/-! ### Years of an era -/

theorem yearOfEra_mono {first second : Int} (order : first ≤ second) : yearOfEra first ≤ yearOfEra second := by
  have quarters (day : Int) : day / 146096 = day / 36524 / 4 := by omega
  have ordinary : first - first / 1460 ≤ second - second / 1460 := by omega
  have centuries : first / 36524 ≤ second / 36524 := by omega
  have secular : first / 36524 - first / 36524 / 4 ≤ second / 36524 - second / 36524 / 4 := by omega
  unfold yearOfEra
  rw [quarters,quarters]
  exact Int.ediv_le_ediv (by omega) (by omega)

theorem yearOfEra_starts : ∀ year : Fin 400, yearOfEra (yearStart year.val) = year.val ∧
    (0 < year.val → yearOfEra (yearStart year.val - 1) = (year.val : Int) - 1) := by
  decide +kernel

theorem yearOfEra_spec {day : Int} (low : 0 ≤ day) (high : day ≤ 146096) :
    (0 ≤ yearOfEra day ∧ yearOfEra day ≤ 399) ∧ 0 ≤ day - yearStart (yearOfEra day) ∧ day - yearStart (yearOfEra day) ≤ 365 ∧
      (day - yearStart (yearOfEra day) = 365 → leap (yearOfEra day + 1) = true) := by
  have first : 0 ≤ yearOfEra day := @yearOfEra_mono 0 day low
  have last : yearOfEra day ≤ 399 := @yearOfEra_mono day 146096 high
  have begun : yearStart (yearOfEra day) ≤ day := by
    by_contra before
    have early : yearOfEra day ≤ yearOfEra (yearStart (yearOfEra day) - 1) := yearOfEra_mono (by omega)
    have found := (yearOfEra_starts ⟨(yearOfEra day).toNat,by omega⟩).2
    simp only [Int.toNat_of_nonneg first] at found
    rcases first.eq_or_lt with zero | positive
    · rw [← zero] at before
      have start : yearStart 0 = 0 := by decide
      omega
    · have year := found (by omega)
      omega
  have ended : yearOfEra day < 399 → day < yearStart (yearOfEra day + 1) := by
    intro inside
    by_contra after
    have late := yearOfEra_mono (not_lt.mp after)
    have found := (yearOfEra_starts ⟨(yearOfEra day + 1).toNat,by omega⟩).1
    simp only [Int.toNat_of_nonneg (show 0 ≤ yearOfEra day + 1 by omega)] at found
    omega
  unfold yearStart leap at *
  generalize yearOfEra day = year at *
  simp only [Bool.and_eq_true,Bool.or_eq_true,decide_eq_true_eq]
  rcases last.eq_or_lt with rfl | inside
  · omega
  · have bound := ended inside
    have olympiad : (year + 1) / 4 = year / 4 ∨ (year + 1) / 4 = year / 4 + 1 ∧ (year + 1) % 4 = 0 := by omega
    have century : (year + 1) / 100 = year / 100 ∧ (year + 1) % 100 ≠ 0 ∨
        (year + 1) / 100 = year / 100 + 1 ∧ (year + 1) / 4 = year / 4 + 1 := by
      by_cases whole : (year + 1) % 100 = 0 <;> omega
    rcases olympiad with _ | _ <;> rcases century with _ | _ <;> omega

theorem fdiv_era : days.fdiv 146097 = days / 146097 := Int.fdiv_eq_ediv_of_nonneg _ (by omega)

theorem monthOfYear {day month : Int} (low : 0 ≤ day) (high : day ≤ 365) (found : (5 * day + 2) / 153 = month) :
    (0 ≤ month ∧ month ≤ 11) ∧ 1 ≤ day - (153 * month + 2) / 5 + 1 ∧ day - (153 * month + 2) / 5 + 1 ≤ 31 ∧
      ((month = 1 ∨ month = 3 ∨ month = 6 ∨ month = 8) → day - (153 * month + 2) / 5 + 1 ≤ 30) ∧
      (month = 11 → day - (153 * month + 2) / 5 + 1 ≤ 29 ∧ (day - (153 * month + 2) / 5 + 1 = 29 → day = 365)) := by
  have range : 0 ≤ month ∧ month ≤ 11 := by omega
  refine ⟨range,?_⟩
  obtain ⟨first,last⟩ := range
  interval_cases month <;> omega

theorem leap_era (year era : Int) : leap (year + era * 400) = leap year := by
  have four : (year + era * 400) % 4 = year % 4 := by omega
  have hundred : (year + era * 400) % 100 = year % 100 := by omega
  have whole : (year + era * 400) % 400 = year % 400 := by omega
  unfold leap
  rw [four,hundred,whole]

theorem civil_spec : ∃ era year month day : Int, (0 ≤ year ∧ year ≤ 399) ∧ (0 ≤ month ∧ month ≤ 11) ∧
    days + 719468 = era * 146097 + yearStart year + (153 * month + 2) / 5 + day - 1 ∧
    civil days = (year + era * 400 + (if month < 10 then 0 else 1),if month < 10 then month + 3 else month - 9,day) ∧
    1 ≤ day ∧ day ≤ monthDays (civil days).1 (civil days).2.1 := by
  have low : 0 ≤ days + 719468 - (days + 719468) / 146097 * 146097 := by omega
  have high : days + 719468 - (days + 719468) / 146097 * 146097 ≤ 146096 := by omega
  obtain ⟨range,begins,ends,last⟩ := yearOfEra_spec low high
  obtain ⟨months,first,most,short,february⟩ := monthOfYear begins ends rfl
  unfold civil
  simp only [fdiv_era]
  generalize split : days + 719468 = shifted at *
  generalize shifted / 146097 = era at *
  generalize shiftedDay : shifted - era * 146097 = dayOfEra at *
  generalize yearOfEra dayOfEra = year at *
  generalize dayOfYear : dayOfEra - yearStart year = day at *
  generalize (5 * day + 2) / 153 = month at *
  refine ⟨era,year,month,day - (153 * month + 2) / 5 + 1,range,months,by omega,?_,first,?_⟩
  · split_ifs <;> first | rfl | omega
  · generalize day - (153 * month + 2) / 5 + 1 = number at *
    by_cases february' : month = 11
    · subst february'
      obtain ⟨bound,whole⟩ := february rfl
      have date : monthDays (year + era * 400 + 1) 2 = if leap (year + 1) = true then 29 else 28 := by
        have shifted : year + era * 400 + 1 = year + 1 + era * 400 := by omega
        rw [shifted]
        simp only [monthDays,leap_era,if_true]
      have months : monthDays (year + era * 400 + if (2 : Int) ≤ 2 then 1 else 0) 2 = if leap (year + 1) = true then 29 else 28 := by
        rw [if_pos (by omega),date]
      show number ≤ monthDays (year + era * 400 + if (2 : Int) ≤ 2 then 1 else 0) 2
      rw [months]
      split
      · exact bound
      · rename_i common
        have notLast : ¬ number = 29 := fun last' => common (last (whole last'))
        omega
    · have common : ∀ month year : Int, month ≠ 2 →
          monthDays year month = if month = 4 ∨ month = 6 ∨ month = 9 ∨ month = 11 then 30 else 31 := by
        intro month year other
        unfold monthDays
        rw [if_neg other]
      rw [common _ _ (by split <;> omega)]
      split_ifs <;> omega

theorem ordinal_civil : ordinal (civil days).1 (civil days).2.1 (civil days).2.2 = days := by
  obtain ⟨era,year,month,day,⟨low,high⟩,⟨first,last⟩,split,date,_⟩ := civil_spec days
  have back : ∀ number : Int, 0 ≤ number → number ≤ 399 → (number + era * 400).fdiv 400 = era := by
    intro number low high
    rw [Int.fdiv_eq_ediv_of_nonneg _ (by omega)]
    omega
  unfold yearStart at split
  rw [date]
  unfold ordinal
  by_cases early : month < 10
  · simp only [if_pos early]
    rw [if_neg (by omega),if_pos (by omega),add_zero,back year low high]
    omega
  · simp only [if_neg early]
    rw [if_pos (by omega),if_neg (by omega),show year + era * 400 + 1 - 1 = year + era * 400 by omega,back year low high]
    omega

theorem civil_month : 1 ≤ (civil days).2.1 ∧ (civil days).2.1 ≤ 12 := by
  obtain ⟨era,year,month,day,_,months,_,date,_⟩ := civil_spec days
  rw [date]
  dsimp only
  split_ifs <;> omega

theorem civil_day : 1 ≤ (civil days).2.2 ∧ (civil days).2.2 ≤ monthDays (civil days).1 (civil days).2.1 := by
  obtain ⟨era,year,month,day,_,_,_,date,first,last⟩ := civil_spec days
  rw [date] at last ⊢
  exact ⟨first,last⟩

/-! ### Days counted one by one -/

def yearDays (year : Int) : Int := if leap year then 366 else 365

/-- The days from 1970 to a date: those of the years before it, those of the months before it, and those before it in its month. -/
def elapsed (year month day : Nat) : Int :=
  ((List.range year).map fun before : Nat => yearDays before).sum - ((List.range 1970).map fun before : Nat => yearDays before).sum +
    ((List.range (month - 1)).map fun before : Nat => monthDays year (before + 1)).sum + (day - 1)

theorem ordinal_next_year (year : Int) : ordinal (year + 1) 1 1 = ordinal year 1 1 + yearDays year := by
  unfold ordinal yearDays leap
  simp only [Int.fdiv_eq_ediv_of_nonneg _ (show (0 : Int) ≤ 400 by omega),Bool.and_eq_true,Bool.or_eq_true,decide_eq_true_eq]
  norm_num
  split_ifs <;> omega

theorem ordinal_next_month {year month : Int} (low : 1 ≤ month) (high : month ≤ 11) :
    ordinal year (month + 1) 1 = ordinal year month 1 + monthDays year month := by
  unfold ordinal
  simp only [Int.fdiv_eq_ediv_of_nonneg _ (show (0 : Int) ≤ 400 by omega)]
  by_cases february : month = 2
  · subst february
    unfold monthDays leap
    simp only [Bool.and_eq_true,Bool.or_eq_true,decide_eq_true_eq]
    norm_num
    omega
  · unfold monthDays
    rw [if_neg february]
    interval_cases month <;> first | exact absurd rfl february | (norm_num; omega)

theorem ordinal_day (year month day : Int) : ordinal year month day = ordinal year month 1 + (day - 1) := by
  unfold ordinal
  dsimp only
  omega

theorem ordinal_new_year (year : Nat) :
    ordinal year 1 1 = ((List.range year).map fun before : Nat => yearDays before).sum - 719528 := by
  induction year with
  | zero => decide
  | succ year ih =>
    have next := ordinal_next_year year
    rw [List.range_succ,List.map_append,List.sum_append]
    push_cast
    rw [next,ih]
    simp
    omega

theorem ordinal_new_month (year : Int) (month : Nat) (high : month ≤ 11) :
    ordinal year (month + 1) 1 = ordinal year 1 1 + ((List.range month).map fun before : Nat => monthDays year (before + 1)).sum := by
  induction month with
  | zero => simp
  | succ month ih =>
    have next := @ordinal_next_month year (month + 1) (by omega) (by omega)
    rw [List.range_succ,List.map_append,List.sum_append]
    push_cast
    rw [next,ih (by omega)]
    simp
    omega

theorem ordinal_elapsed {month : Nat} (year day : Nat) (low : 1 ≤ month) (high : month ≤ 12) :
    ordinal year month day = elapsed year month day := by
  have first : ((List.range 1970).map fun before : Nat => yearDays before).sum = 719528 := by decide +kernel
  have months := ordinal_new_month year (month - 1) (by omega)
  rw [show ((month - 1 : Nat) : Int) + 1 = month by omega] at months
  unfold elapsed
  rw [ordinal_day,months,ordinal_new_year,first]

end Library.Calendar
