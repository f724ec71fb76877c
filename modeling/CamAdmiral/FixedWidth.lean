import Mathlib.Data.Nat.Basic
import Mathlib.Data.String.Basic

/-!
Numbers written with a fixed width, and the order of texts put together from them. Such texts are
ordered by their first different field.
-/

namespace CamAdmiral

/-- `f"{value:0{width}d}"` of a value with at most that many digits. -/
def fixedDigits : Nat → Nat → List Char
  | 0, _ => []
  | width + 1, value => fixedDigits width (value / 10) ++ [Nat.digitChar (value % 10)]

@[simp] theorem length_fixedDigits (width value : Nat) :
    (fixedDigits width value).length = width := by
  induction width generalizing value with
  | zero => rfl
  | succ width ih => rw [fixedDigits, List.length_append, ih, List.length_singleton]

/-- Texts with starts of one length are compared by the starts first. -/
theorem append_lt_append {first second : List Char} (same : first.length = second.length)
    (rest other : List Char) :
    first ++ rest < second ++ other ↔ first < second ∨ first = second ∧ rest < other := by
  induction first generalizing second with
  | nil =>
      obtain rfl : second = [] := by simpa using same.symm
      simp
  | cons head tail ih =>
      cases second with
      | nil => cases same
      | cons head' tail' =>
          have tails := ih (Nat.succ.inj same)
          rw [List.cons_append, List.cons_append, List.cons_lt_cons_iff, tails,
            List.cons_lt_cons_iff, List.cons.injEq]
          tauto

theorem digitChar_lt : ∀ first second : Fin 10,
    Nat.digitChar first < Nat.digitChar second ↔ first < second := by
  decide

theorem fixedDigits_lt {width first second : Nat} (firstBound : first < 10 ^ width)
    (secondBound : second < 10 ^ width) :
    fixedDigits width first < fixedDigits width second ↔ first < second := by
  induction width generalizing first second with
  | zero =>
      have isFirst : first = 0 := by omega
      have isSecond : second = 0 := by omega
      simp [fixedDigits, isFirst, isSecond]
  | succ width ih =>
      rw [Nat.pow_succ] at firstBound secondBound
      have leading {value : Nat} (bound : value < 10 ^ width * 10) : value / 10 < 10 ^ width :=
        Nat.div_lt_of_lt_mul (by omega)
      have digits := ih (leading firstBound) (leading secondBound)
      have reverse := ih (leading secondBound) (leading firstBound)
      have last := digitChar_lt ⟨first % 10, Nat.mod_lt _ (by decide)⟩
        ⟨second % 10, Nat.mod_lt _ (by decide)⟩
      have same : fixedDigits width (first / 10) = fixedDigits width (second / 10) ↔
          first / 10 = second / 10 := by
        constructor
        · intro equal
          rw [equal] at digits reverse
          have notBelow := mt digits.mpr (lt_irrefl _)
          have notAbove := mt reverse.mpr (lt_irrefl _)
          omega
        · intro equal
          rw [equal]
      have single : [Nat.digitChar (first % 10)] < [Nat.digitChar (second % 10)] ↔
          first % 10 < second % 10 := by
        rw [List.cons_lt_cons_iff]
        simpa using last
      rw [fixedDigits, fixedDigits, append_lt_append (by simp), digits, same, single]
      omega

/-- A field with a fixed width comes first. -/
theorem field_lt {width first second : Nat} (firstBound : first < 10 ^ width)
    (secondBound : second < 10 ^ width) (rest other : List Char) :
    fixedDigits width first ++ rest < fixedDigits width second ++ other ↔
      first < second ∨ first = second ∧ rest < other := by
  rw [append_lt_append (by simp), fixedDigits_lt firstBound secondBound]
  constructor
  · rintro (below | ⟨equal, later⟩)
    · exact .inl below
    · have notBelow := mt (fixedDigits_lt firstBound secondBound).mpr (equal ▸ lt_irrefl _)
      have notAbove := mt (fixedDigits_lt secondBound firstBound).mpr (equal ▸ lt_irrefl _)
      exact .inr ⟨by omega, later⟩
  · rintro (below | ⟨rfl, later⟩)
    · exact .inl below
    · exact .inr ⟨rfl, later⟩

end CamAdmiral
