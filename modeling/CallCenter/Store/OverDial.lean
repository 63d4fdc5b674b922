import Mathlib.Data.Rat.Defs
import Mathlib.Tactic.Linarith
import Mathlib.Tactic.FieldSimp
import Mathlib.Tactic.Ring

/-!
# Over-dialling

A predictive queue dials more members than it has agents, by a factor that `cc_wrap_over_dial`
computes from the share of abandoned calls. Up to the target it raises the queue's own factor, from
there to the maximum it takes it down, and from the maximum on it is 1.

The three formulas do not meet. At the target itself the distance counts as 0.99, more than just
below it, and short of the maximum the factor goes down to 0, from where it jumps to 1.
-/

namespace CallCenter.Store

/-- The distance to the target, where none at all counts as 0.99. -/
def targetGap (target current : ℚ) : ℚ :=
  if target - current = 0 then 99 / 100 else target - current

def ccWrapOverDial (overDial current target max q : ℚ) : ℚ :=
  if current ≥ max then 1
  else
    let dx := targetGap target current
    if dx > 0 then overDial + (overDial * dx * q) / 100
    else (overDial * (((max - current) * (100 + q)) / max)) / 100

variable {o q t m c x y : ℚ}

theorem targetGap_pos (h : c ≤ t) : 0 < targetGap t c := by
  unfold targetGap
  split
  · norm_num
  · rename_i hne
    exact lt_of_le_of_ne (sub_nonneg.mpr h) (Ne.symm hne)

theorem targetGap_of_lt (h : c < t) : targetGap t c = t - c :=
  if_neg (sub_pos.mpr h).ne'

theorem targetGap_self (t : ℚ) : targetGap t t = 99 / 100 :=
  if_pos (sub_self t)

/-! ## The three pieces -/

theorem overDial_of_max_le (h : m ≤ c) : ccWrapOverDial o c t m q = 1 :=
  if_pos h

theorem overDial_of_le_target (h : c ≤ t) (hm : c < m) :
    ccWrapOverDial o c t m q = o + (o * targetGap t c * q) / 100 := by
  unfold ccWrapOverDial
  rw [if_neg (not_le.mpr hm), if_pos (targetGap_pos h)]

theorem overDial_of_target_lt (h : t < c) (hm : c < m) :
    ccWrapOverDial o c t m q = (o * (((m - c) * (100 + q)) / m)) / 100 := by
  have hgap : targetGap t c = t - c := if_neg (sub_neg.mpr h).ne
  unfold ccWrapOverDial
  rw [if_neg (not_le.mpr hm), hgap, if_neg (by linarith)]

theorem le_overDial_iff (hpos : 0 < m) (h : t < c) (hm : c < m) (b : ℚ) :
    b ≤ ccWrapOverDial o c t m q ↔ 100 * m * b ≤ o * ((m - c) * (100 + q)) := by
  rw [overDial_of_target_lt h hm, ← mul_div_assoc, div_div, le_div_iff₀ (by linarith)]
  have hcomm : b * (m * 100) = 100 * m * b := by ring
  rw [hcomm]

theorem overDial_le_iff (hpos : 0 < m) (h : t < c) (hm : c < m) (b : ℚ) :
    ccWrapOverDial o c t m q ≤ b ↔ o * ((m - c) * (100 + q)) ≤ 100 * m * b := by
  rw [overDial_of_target_lt h hm, ← mul_div_assoc, div_div, div_le_iff₀ (by linarith)]
  have hcomm : b * (m * 100) = 100 * m * b := by ring
  rw [hcomm]

/-! ## Backing off -/

/-- The share is one at which the factor has not gone below 1. -/
def KeepsOne (o q t m c : ℚ) : Prop :=
  t < c → c < m → 100 * m ≤ o * ((m - c) * (100 + q))

theorem one_le_overDial_iff (hpos : 0 < m) (ho : 1 ≤ o) (hq : 0 ≤ q) :
    1 ≤ ccWrapOverDial o c t m q ↔ KeepsOne o q t m c := by
  rcases le_or_gt m c with hm | hm
  · rw [overDial_of_max_le hm]
    exact iff_of_true le_rfl fun _ hlt => absurd hlt (not_lt.mpr hm)
  rcases le_or_gt c t with ht | ht
  · rw [overDial_of_le_target ht hm]
    have hraise : 0 ≤ o * targetGap t c * q :=
      mul_nonneg (mul_nonneg (by linarith) (targetGap_pos ht).le) hq
    exact iff_of_true (by linarith) fun hlt => absurd ht (not_le.mpr hlt)
  · rw [le_overDial_iff hpos ht hm, mul_one]
    exact ⟨fun h _ _ => h, fun h => h ht hm⟩

/-- The two shares are not on the two sides of a step upwards: the later one is the target only if
the earlier is 0.99 below it (or the load factor is 0), and from below the target to above it the
second formula has come down far enough. -/
structure NoStepUp (q t m x y : ℚ) : Prop where
  atTarget : x < y → y = t → t < m → q = 0 ∨ 99 / 100 ≤ t - x
  across : x ≤ t → t < y → y < m → (m - y) * (100 + q) ≤ m * (100 + targetGap t x * q)

theorem overDial_le_below (ho : 1 ≤ o) (hx : x ≤ t) (hy : y ≤ t) (hxm : x < m) (hym : y < m) :
    ccWrapOverDial o y t m q ≤ ccWrapOverDial o x t m q
      ↔ targetGap t y * q ≤ targetGap t x * q := by
  rw [overDial_of_le_target hx hxm, overDial_of_le_target hy hym, add_le_add_iff_left,
    div_le_div_iff_of_pos_right (by norm_num), mul_assoc, mul_assoc,
    mul_le_mul_iff_right₀ (by linarith)]

theorem overDial_le_iff_below (ho : 1 ≤ o) (hq : 0 ≤ q) (hxy : x ≤ y) (hy : y ≤ t) (hm : y < m) :
    ccWrapOverDial o y t m q ≤ ccWrapOverDial o x t m q ↔ NoStepUp q t m x y := by
  rw [overDial_le_below ho (hxy.trans hy) hy (hxy.trans_lt hm) hm]
  have hacross : x ≤ t → t < y → y < m → (m - y) * (100 + q) ≤ m * (100 + targetGap t x * q) :=
    fun _ hlt => absurd hy (not_le.mpr hlt)
  rcases hxy.eq_or_lt with rfl | hlt
  · exact iff_of_true le_rfl ⟨fun h => absurd h (lt_irrefl x), hacross⟩
  rcases hy.eq_or_lt with rfl | hyt
  · rw [targetGap_self, targetGap_of_lt hlt]
    constructor
    · intro h
      refine ⟨fun _ _ _ => ?_, hacross⟩
      rcases hq.eq_or_lt with hzero | hpos
      · exact .inl hzero.symm
      · exact .inr (le_of_mul_le_mul_right h hpos)
    · intro h
      rcases h.atTarget hlt rfl hm with rfl | hfar
      · rw [mul_zero, mul_zero]
      · exact mul_le_mul_of_nonneg_right hfar hq
  · rw [targetGap_of_lt hyt, targetGap_of_lt (hlt.trans hyt)]
    exact iff_of_true (mul_le_mul_of_nonneg_right (by linarith) hq)
      ⟨fun _ heq => absurd heq hyt.ne, hacross⟩

theorem overDial_le_iff_between (hpos : 0 < m) (ho : 1 ≤ o) (hq : 0 ≤ q) (hxy : x ≤ y)
    (ht : t < y) (hm : y < m) :
    ccWrapOverDial o y t m q ≤ ccWrapOverDial o x t m q ↔ NoStepUp q t m x y := by
  have hat : x < y → y = t → t < m → q = 0 ∨ 99 / 100 ≤ t - x := fun _ heq => absurd heq ht.ne'
  rw [overDial_le_iff hpos ht hm]
  rcases le_or_gt x t with hx | hx
  · rw [overDial_of_le_target hx (hxy.trans_lt hm)]
    have hright : 100 * m * (o + o * targetGap t x * q / 100)
        = o * (m * (100 + targetGap t x * q)) := by ring
    rw [hright, mul_le_mul_iff_right₀ (by linarith)]
    exact ⟨fun h => ⟨hat, fun _ _ _ => h⟩, fun h => h.across hx ht hm⟩
  · have hfalls : o * ((m - y) * (100 + q)) ≤ 100 * m * ccWrapOverDial o x t m q := by
      rw [overDial_of_target_lt hx (hxy.trans_lt hm)]
      have hright : 100 * m * (o * ((m - x) * (100 + q) / m) / 100)
          = o * ((m - x) * (100 + q)) := by field_simp
      rw [hright]
      exact mul_le_mul_of_nonneg_left (mul_le_mul_of_nonneg_right (by linarith) (by linarith))
        (by linarith)
    exact iff_of_true hfalls ⟨hat, fun hle => absurd hx (not_lt.mpr hle)⟩

/-- **Over-dialling backs off, and never below 1**, exactly under these conditions on the two
shares. -/
theorem over_dial_backs_off_iff (hm : 0 < m) (ho : 1 ≤ o) (hq : 0 ≤ q) (hxy : x ≤ y) :
    (ccWrapOverDial o y t m q ≤ ccWrapOverDial o x t m q
        ∧ 1 ≤ ccWrapOverDial o x t m q ∧ 1 ≤ ccWrapOverDial o y t m q)
      ↔ NoStepUp q t m x y ∧ KeepsOne o q t m x ∧ KeepsOne o q t m y := by
  rw [one_le_overDial_iff hm ho hq, one_le_overDial_iff hm ho hq]
  refine and_congr_left fun hone => ?_
  rcases le_or_gt m y with hmax | hlt
  · -- The later factor is 1, which the earlier one has not gone below.
    have hx1 := (one_le_overDial_iff hm ho hq).mpr hone.1
    rw [overDial_of_max_le hmax]
    exact iff_of_true hx1
      ⟨fun _ heq hlt => absurd hmax (not_le.mpr (heq ▸ hlt)),
        fun _ _ hlt => absurd hmax (not_le.mpr hlt)⟩
  rcases le_or_gt y t with hy | hy
  · exact overDial_le_iff_below ho hq hxy hy hlt
  · exact overDial_le_iff_between hm ho hq hxy hy hlt

/-- From 2 to 4 per cent abandoned, around a target of 3 and with a maximum of 7. -/
theorem over_dial_backs_off_around_target :
    ccWrapOverDial 3 4 3 7 10 ≤ ccWrapOverDial 3 2 3 7 10
      ∧ 1 ≤ ccWrapOverDial 3 2 3 7 10 ∧ 1 ≤ ccWrapOverDial 3 4 3 7 10 := by
  refine (over_dial_backs_off_iff (by norm_num) (by norm_num) (by norm_num) (by norm_num)).mpr
    ⟨⟨?_, ?_⟩, ?_, ?_⟩
  · norm_num
  · norm_num [targetGap]
  · norm_num [KeepsOne]
  · norm_num [KeepsOne]

/-- Half a per cent below the target the factor is 2.1, at the target 2.198; and just short of the
maximum it is 0.22, from where it rises to 1. -/
theorem over_dial_rises :
    ccWrapOverDial 2 (5 / 2) 3 7 10 = 21 / 10 ∧ ccWrapOverDial 2 3 3 7 10 = 1099 / 500
      ∧ ccWrapOverDial 1 (28 / 5) 3 7 10 = 11 / 50 ∧ ccWrapOverDial 1 7 3 7 10 = 1 := by
  norm_num [ccWrapOverDial, targetGap]

end CallCenter.Store
