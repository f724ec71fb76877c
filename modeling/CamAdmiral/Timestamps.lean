import CamAdmiral.FixedWidth
import Mathlib.Algebra.GroupWithZero.Nat

/-!
UTC timestamps as the repository stores them. The text of a whole second has no fraction, and the
sign of the offset comes before the point of a fraction, so texts are ordered like instants.
-/

namespace CamAdmiral

/-! The calendar of `datetime`. -/

def isLeap (year : Nat) : Bool := year % 4 = 0 && (year % 100 ≠ 0 || year % 400 = 0)

def daysInMonth (year month : Nat) : Nat :=
  if month = 2 then (if isLeap year then 29 else 28)
  else if month = 4 || month = 6 || month = 9 || month = 11 then 30
  else 31

def daysBeforeYear (year : Nat) : Nat :=
  (year - 1) * 365 + (year - 1) / 4 - (year - 1) / 100 + (year - 1) / 400

def daysBeforeMonth (year month : Nat) : Nat :=
  ((List.range (month - 1)).map fun earlier => daysInMonth year (earlier + 1)).sum

/-- A UTC `datetime`, within the bounds that its constructor checks. -/
structure Moment where
  year : Nat
  month : Nat
  day : Nat
  hour : Nat
  minute : Nat
  second : Nat
  microsecond : Nat
  validYear : 1 ≤ year ∧ year ≤ 9999
  validMonth : 1 ≤ month ∧ month ≤ 12
  validDay : 1 ≤ day ∧ day ≤ daysInMonth year month
  validTime : hour < 24 ∧ minute < 60 ∧ second < 60 ∧ microsecond < 10 ^ 6

/-- The day counted from the first one of year 1. -/
def Moment.ordinal (moment : Moment) : Nat :=
  daysBeforeYear moment.year + daysBeforeMonth moment.year moment.month + moment.day

/-- The time in microseconds. -/
def Moment.instant (moment : Moment) : Nat :=
  (((moment.ordinal * 24 + moment.hour) * 60 + moment.minute) * 60 + moment.second) * 10 ^ 6 +
    moment.microsecond

/-- The fraction is left out if it is zero. -/
def fractionText (microsecond : Nat) : List Char :=
  if microsecond = 0 then [] else '.' :: fixedDigits 6 microsecond

def isoText (moment : Moment) : List Char :=
  fixedDigits 4 moment.year ++ '-' :: (fixedDigits 2 moment.month ++ '-' ::
    (fixedDigits 2 moment.day ++ 'T' :: (fixedDigits 2 moment.hour ++ ':' ::
      (fixedDigits 2 moment.minute ++ ':' :: (fixedDigits 2 moment.second ++
        (fractionText moment.microsecond ++ "+00:00".toList))))))

/-- `_now`, from what the clock shows. -/
def isoformat (moment : Moment) : String := String.ofList (isoText moment)

/-! Days are counted in the order of dates. -/

def yearLength (year : Nat) : Nat := if isLeap year then 366 else 365

theorem daysBeforeYear_succ {year : Nat} (positive : 1 ≤ year) :
    daysBeforeYear (year + 1) = daysBeforeYear year + yearLength year := by
  obtain ⟨before, rfl⟩ := Nat.exists_eq_add_of_le' positive
  have fours : (before + 1) / 4 = before / 4 + if (before + 1) % 4 = 0 then 1 else 0 := by
    rw [Nat.succ_div]
    simp only [Nat.dvd_iff_mod_eq_zero]
  have centuries : (before + 1) / 100 = before / 100 + if (before + 1) % 100 = 0 then 1 else 0 := by
    rw [Nat.succ_div]
    simp only [Nat.dvd_iff_mod_eq_zero]
  have cycles : (before + 1) / 400 = before / 400 + if (before + 1) % 400 = 0 then 1 else 0 := by
    rw [Nat.succ_div]
    simp only [Nat.dvd_iff_mod_eq_zero]
  have enough : before / 100 ≤ before / 4 := by omega
  have century : (before + 1) % 100 = 0 → (before + 1) % 4 = 0 := by omega
  have cycle : (before + 1) % 400 = 0 → (before + 1) % 100 = 0 := by omega
  simp only [daysBeforeYear, yearLength, isLeap, Nat.add_sub_cancel, fours, centuries, cycles,
    Bool.and_eq_true, Bool.or_eq_true, decide_eq_true_eq]
  generalize before / 4 = leaps, before / 100 = skipped, before / 400 = kept at *
  by_cases isFourth : (before + 1) % 4 = 0
  · by_cases isHundredth : (before + 1) % 100 = 0
    · by_cases isCycle : (before + 1) % 400 = 0
      · simp [isFourth, isHundredth, isCycle]
        omega
      · simp [isFourth, isHundredth, isCycle]
        omega
    · simp [isFourth, isHundredth, mt cycle isHundredth]
      omega
  · have notHundredth := mt century isFourth
    simp [isFourth, notHundredth, mt cycle notHundredth]
    omega

theorem daysBeforeYear_le {year later : Nat} (positive : 1 ≤ year) (before : year < later) :
    daysBeforeYear year + yearLength year ≤ daysBeforeYear later := by
  induction later, before using Nat.le_induction with
  | base => exact (daysBeforeYear_succ positive).ge
  | succ later before ih =>
      rw [daysBeforeYear_succ (by omega)]
      omega

theorem daysBeforeMonth_succ {month : Nat} (positive : 1 ≤ month) (year : Nat) :
    daysBeforeMonth year (month + 1) = daysBeforeMonth year month + daysInMonth year month := by
  obtain ⟨before, rfl⟩ := Nat.exists_eq_add_of_le' positive
  simp [daysBeforeMonth, List.range_succ]

theorem daysBeforeMonth_le {month later : Nat} (positive : 1 ≤ month) (before : month < later)
    (year : Nat) :
    daysBeforeMonth year month + daysInMonth year month ≤ daysBeforeMonth year later := by
  induction later, before using Nat.le_induction with
  | base => exact (daysBeforeMonth_succ positive year).ge
  | succ later before ih =>
      rw [daysBeforeMonth_succ (by omega)]
      omega

theorem daysBeforeMonth_year (year : Nat) : daysBeforeMonth year 13 = yearLength year := by
  have months : List.range 12 = [0, 1, 2, 3, 4, 5, 6, 7, 8, 9, 10, 11] := rfl
  rw [daysBeforeMonth, months, yearLength]
  cases leap : isLeap year <;> simp [daysInMonth, leap]

/-! Instants and texts in the order of the fields. -/

def SameDate (first second : Moment) : Prop :=
  first.year = second.year ∧ first.month = second.month ∧ first.day = second.day

/-- The first different field of the dates is smaller. -/
def EarlierDate (first second : Moment) : Prop :=
  first.year < second.year ∨ first.year = second.year ∧ (first.month < second.month ∨
    first.month = second.month ∧ first.day < second.day)

def EarlierTime (first second : Moment) : Prop :=
  first.hour < second.hour ∨ first.hour = second.hour ∧ (first.minute < second.minute ∨
    first.minute = second.minute ∧ (first.second < second.second ∨
      first.second = second.second ∧ first.microsecond < second.microsecond))

def Earlier (first second : Moment) : Prop :=
  EarlierDate first second ∨ SameDate first second ∧ EarlierTime first second

theorem earlier_trichotomy (first second : Moment) :
    Earlier first second ∨ first = second ∨ Earlier second first := by
  by_cases same : first.year = second.year ∧ first.month = second.month ∧
      first.day = second.day ∧ first.hour = second.hour ∧ first.minute = second.minute ∧
      first.second = second.second ∧ first.microsecond = second.microsecond
  · obtain ⟨year, month, day, hour, minute, second', microsecond⟩ := same
    right
    left
    cases first
    cases second
    simp_all
  · simp only [Earlier, EarlierDate, EarlierTime, SameDate]
    omega

theorem ordinal_lt {first second : Moment} (earlier : EarlierDate first second) :
    first.ordinal < second.ordinal := by
  have firstDay := first.validDay
  have secondDay := second.validDay
  have month : daysBeforeMonth first.year first.month + daysInMonth first.year first.month ≤
      yearLength first.year := by
    rw [← daysBeforeMonth_year]
    exact daysBeforeMonth_le first.validMonth.1 (by have := first.validMonth.2; omega) _
  simp only [Moment.ordinal]
  rcases earlier with years | ⟨year, months | ⟨months, days⟩⟩
  · have := daysBeforeYear_le first.validYear.1 years
    omega
  · have := daysBeforeMonth_le first.validMonth.1 months second.year
    rw [year] at firstDay ⊢
    omega
  · rw [year, months]
    omega

theorem instant_lt {first second : Moment} (earlier : Earlier first second) :
    first.instant < second.instant := by
  have firstTime := first.validTime
  have secondTime := second.validTime
  simp only [Moment.instant]
  rcases earlier with date | ⟨date, time⟩
  · have := ordinal_lt date
    omega
  · have same : first.ordinal = second.ordinal := by
      obtain ⟨year, month, day⟩ := date
      simp only [Moment.ordinal, year, month, day]
    rw [same]
    simp only [EarlierTime] at time
    omega

/-- The fraction decides last, and its absence comes before every fraction. -/
theorem fractionText_lt {first second : Nat} (bound : second < 10 ^ 6) (below : first < second) :
    fractionText first ++ "+00:00".toList < fractionText second ++ "+00:00".toList := by
  have positive : second ≠ 0 := by omega
  rw [fractionText, fractionText, if_neg positive]
  split
  · rw [List.nil_append, List.cons_append]
    exact List.Lex.rel (by decide)
  · rw [List.cons_append, List.cons_append, List.cons_lt_cons_iff,
      field_lt (by omega) bound]
    exact .inr ⟨rfl, .inl below⟩

theorem daysInMonth_le (year month : Nat) : daysInMonth year month ≤ 31 := by
  rw [daysInMonth]
  split_ifs <;> omega

theorem isoText_lt {first second : Moment} (earlier : Earlier first second) :
    isoText first < isoText second := by
  have field {width value other : Nat} (bound : value < 10 ^ width ∧ other < 10 ^ width)
      {sign : Char} {rest rest' : List Char}
      (before : value < other ∨ value = other ∧ rest < rest') :
      fixedDigits width value ++ sign :: rest < fixedDigits width other ++ sign :: rest' := by
    rw [field_lt bound.1 bound.2, List.cons_lt_cons_iff]
    exact before.imp id fun same => ⟨same.1, .inr ⟨rfl, same.2⟩⟩
  have firstTime := first.validTime
  have secondTime := second.validTime
  have year : first.year < 10 ^ 4 ∧ second.year < 10 ^ 4 := by
    have := first.validYear
    have := second.validYear
    omega
  have month : first.month < 10 ^ 2 ∧ second.month < 10 ^ 2 := by
    have := first.validMonth
    have := second.validMonth
    omega
  have day : first.day < 10 ^ 2 ∧ second.day < 10 ^ 2 := by
    have := first.validDay
    have := second.validDay
    have := daysInMonth_le first.year first.month
    have := daysInMonth_le second.year second.month
    omega
  rcases earlier with (years | ⟨sameYear, months | ⟨sameMonth, days⟩⟩) | ⟨⟨sameYear, sameMonth,
      sameDay⟩, time⟩
  · exact field year (.inl years)
  · exact field year (.inr ⟨sameYear, field month (.inl months)⟩)
  · exact field year (.inr ⟨sameYear, field month (.inr ⟨sameMonth, field day (.inl days)⟩)⟩)
  · refine field year (.inr ⟨sameYear, field month (.inr ⟨sameMonth, field day
      (.inr ⟨sameDay, ?_⟩)⟩)⟩)
    rcases time with hours | ⟨sameHour, minutes | ⟨sameMinute, seconds | ⟨sameSecond, fraction⟩⟩⟩
    · exact field (by omega) (.inl hours)
    · exact field (by omega) (.inr ⟨sameHour, field (by omega) (.inl minutes)⟩)
    · refine field (by omega) (.inr ⟨sameHour, field (by omega) (.inr ⟨sameMinute, ?_⟩)⟩)
      rw [field_lt (by omega) (by omega)]
      exact .inl seconds
    · refine field (by omega) (.inr ⟨sameHour, field (by omega) (.inr ⟨sameMinute, ?_⟩)⟩)
      rw [field_lt (by omega) (by omega)]
      exact .inr ⟨sameSecond, fractionText_lt secondTime.2.2.2 fraction⟩

theorem isoformat_of_earlier {first second : Moment} (earlier : Earlier first second) :
    isoformat first < isoformat second := by
  rw [String.lt_iff_toList_lt, isoformat, isoformat, String.toList_ofList, String.toList_ofList]
  exact isoText_lt earlier

theorem isoformat_lt_iff {first second : Moment} :
    isoformat first < isoformat second ↔ first.instant < second.instant := by
  rcases earlier_trichotomy first second with before | rfl | after
  · exact iff_of_true (isoformat_of_earlier before) (instant_lt before)
  · exact iff_of_false (lt_irrefl _) (lt_irrefl _)
  · exact iff_of_false (isoformat_of_earlier after).not_gt (instant_lt after).not_gt

theorem instant_injective {first second : Moment} (same : first.instant = second.instant) :
    first = second := by
  rcases earlier_trichotomy first second with before | equal | after
  · exact absurd same (instant_lt before).ne
  · exact equal
  · exact absurd same (instant_lt after).ne'

/-- Texts are before, equal or after each other exactly if the instants are. -/
theorem isoformat_order (first second : Moment) :
    (isoformat first < isoformat second ↔ first.instant < second.instant) ∧
      (isoformat first = isoformat second ↔ first.instant = second.instant) ∧
      (isoformat first > isoformat second ↔ first.instant > second.instant) := by
  refine ⟨isoformat_lt_iff, ?_, isoformat_lt_iff⟩
  constructor
  · intro same
    have notBefore := mt isoformat_lt_iff.mpr same.not_lt
    have notAfter := mt isoformat_lt_iff.mpr same.not_gt
    omega
  · intro same
    rw [instant_injective same]

end CamAdmiral
