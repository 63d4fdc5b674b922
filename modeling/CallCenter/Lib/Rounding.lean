import Mathlib.Tactic.Ring

/-!
# Rounding to a whole number

A fraction is rounded to the nearest whole number, and one in the middle away from zero. Rounding
keeps the order, and numbers that are one apart stay apart.
-/

namespace CallCenter.Lib

def roundDiv (n : Int) (d : Nat) : Int :=
  if 0 ≤ n then (2 * n + d) / (2 * d) else -((2 * -n + d) / (2 * d))

section HalfUp

variable {n m d : Int}

theorem halfUp_add (hd : 0 < d) (n : Int) :
    (2 * (n + d) + d) / (2 * d) = (2 * n + d) / (2 * d) + 1 := by
  have hsum : 2 * (n + d) + d = 2 * n + d + 1 * (2 * d) := by ring
  rw [hsum, Int.add_mul_ediv_right _ _ (by omega)]

theorem halfUp_le (hd : 0 < d) (h : n ≤ m) : (2 * n + d) / (2 * d) ≤ (2 * m + d) / (2 * d) :=
  Int.ediv_le_ediv (by omega) (by omega)

theorem halfUp_nonneg (hd : 0 < d) (h : 0 ≤ n) : 0 ≤ (2 * n + d) / (2 * d) :=
  Int.ediv_nonneg (by omega) (by omega)

theorem one_le_halfUp (hd : 0 < d) (h : d ≤ 2 * n) : 1 ≤ (2 * n + d) / (2 * d) :=
  Int.le_ediv_of_mul_le (by omega) (by omega)

end HalfUp

variable {n m : Int} {d : Nat}

theorem roundDiv_lt (hd : 0 < d) (h : n + d ≤ m) : roundDiv n d < roundDiv m d := by
  have hd' : (0 : Int) < d := by omega
  unfold roundDiv
  by_cases hn : 0 ≤ n
  · have hup := halfUp_add hd' n
    have hle := halfUp_le hd' h
    rw [if_pos hn, if_pos (by omega)]
    omega
  · by_cases hm : 0 ≤ m
    · have hnegative := halfUp_nonneg (n := -n) hd' (by omega)
      have hpositive := halfUp_nonneg hd' hm
      rw [if_neg hn, if_pos hm]
      -- One of the two is at least a half away from zero.
      by_cases hhalf : d ≤ 2 * m
      · have hone := one_le_halfUp hd' hhalf
        omega
      · have hone := one_le_halfUp (n := -n) hd' (by omega)
        omega
    · have hup := halfUp_add hd' (-m)
      have hle := halfUp_le (n := -m + d) (m := -n) hd' (by omega)
      rw [if_neg hn, if_neg hm]
      omega

end CallCenter.Lib
