import Mathlib.Data.Rat.Floor

/-!
Rounding of exact numbers, where a half goes to the even neighbour.
-/

namespace CamAdmiral

def roundHalfEven (value : ℚ) : Int :=
  let low := ⌊value⌋
  let rest := value - low
  if rest < 1 / 2 then low
  else if 1 / 2 < rest then low + 1
  else if low % 2 = 0 then low
  else low + 1

/-- A number rounded to a number of decimal places. -/
def roundPlaces (places : Nat) (value : ℚ) : ℚ :=
  roundHalfEven (value * 10 ^ places) / 10 ^ places

/-- Rounding does not pass a whole number. -/
theorem roundHalfEven_le {value : ℚ} {bound : Int} (below : value ≤ bound) :
    roundHalfEven value ≤ bound := by
  have low : ⌊value⌋ ≤ bound := by
    have floored := Int.floor_le value
    exact_mod_cast floored.trans below
  have exact (notWhole : value ≠ ⌊value⌋) : ⌊value⌋ + 1 ≤ bound := by
    have strict : (⌊value⌋ : ℚ) < bound :=
      lt_of_lt_of_le (lt_of_le_of_ne (Int.floor_le value) (Ne.symm notWhole)) below
    exact_mod_cast strict
  have above (rest : ¬ value - ⌊value⌋ < 1 / 2) : ⌊value⌋ + 1 ≤ bound := by
    apply exact
    intro same
    apply rest
    rw [← same, sub_self]
    norm_num
  simp only [roundHalfEven]
  split
  · exact low
  · rename_i rest
    split
    · exact above rest
    · split
      · exact low
      · exact above rest

theorem roundPlaces_le {places : Nat} {value : ℚ} {bound : Int} (below : value ≤ bound) :
    roundPlaces places value ≤ bound := by
  have positive : (0 : ℚ) < 10 ^ places := by positivity
  rw [roundPlaces, div_le_iff₀ positive]
  have scaled : value * 10 ^ places ≤ ((bound * 10 ^ places : Int) : ℚ) := by
    push_cast
    exact mul_le_mul_of_nonneg_right below positive.le
  have rounded := roundHalfEven_le scaled
  exact_mod_cast rounded

end CamAdmiral
