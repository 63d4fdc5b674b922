import Mathlib.Algebra.Order.Ring.Int
import Mathlib.Order.Bounds.Basic
import Mathlib.Tactic.ByContra

/-!
# The rate of a connection to the switch

A connection asks the switch for its sessions per second and limits its own originations to that
rate. The answer is a text. Everything but its digits is struck out, `Atoi` reads the rest, and the
number is narrowed to 16 bits on its way to the limiter, which divides a second by it.
-/

namespace CallCenter.ExternalCommands

/-- `strconv.Atoi` of a text of digits, with its error dropped: 0 for an empty text, and the
greatest `int` for a number beyond it. -/
def atoi (digits : List Char) : Int :=
  if digits = [] then 0
  else min (digits.foldl (fun n c => 10 * n + (c.toNat - '0'.toNat)) 0) (2 ^ 63 - 1)

def parseSps (text : List Char) : Int := atoi (text.filter Char.isDigit)

/-- A limiter of `golang.org/x/time/rate` with one permit at a time, by the nanoseconds between two
permits. -/
structure RateLimiter where
  rate : Nat
  interval : Nat
  deriving DecidableEq

def second : Nat := 1000000000

/-- `none` is a panic: the division by zero. -/
def newRateLimiter (perSec : Nat) : Option RateLimiter :=
  if perSec = 0 then none else some ⟨perSec, second / perSec⟩

structure CallConnection where
  rateLimiter : Option RateLimiter
  deriving DecidableEq

def uint16 (sps : Int) : Nat := (sps % 2 ^ 16).toNat

def CallConnection.setConnectionSps (c : CallConnection) (sps : Int) :
    Option (CallConnection × Int) :=
  if sps > 0 then
    (newRateLimiter (uint16 sps)).map fun limiter => ({ c with rateLimiter := some limiter }, sps)
  else some (c, sps)

/-- The rate asked for is the one that is kept: the call returns, and up to a billion a second the
interval of its limiter is the longest that allows the rate. -/
def RateKept (c : CallConnection) (sps : Int) : Prop :=
  ∃ c', c.setConnectionSps sps = some (c', sps)
    ∧ (sps ≤ 1000000000 → ∃ limiter, c'.rateLimiter = some limiter
      ∧ IsGreatest {n : Nat | n * sps ≤ second} limiter.interval)

theorem isGreatest_interval_iff {n k : Nat} (hn : 0 < n) :
    IsGreatest {i : Nat | i * (n : Int) ≤ second} k ↔ k = second / n := by
  have hmem : ∀ i : Nat, i * (n : Int) ≤ second ↔ i ≤ second / n := by
    intro i
    rw [Nat.le_div_iff_mul_le hn]
    norm_cast
  constructor
  · intro h
    have hle := (hmem k).mp h.1
    have hge := h.2 ((hmem (second / n)).mpr le_rfl)
    omega
  · rintro rfl
    exact ⟨(hmem _).mpr le_rfl, fun i hi => (hmem i).mp hi⟩

theorem interval_lt_of_narrow {a b : Nat} (ha : 0 < a) (hnarrow : a < 2 ^ 16)
    (hwide : 2 ^ 16 ≤ b) : second / b < second / a := by
  have hupper : second / b ≤ 15258 := Nat.div_le_div_left hwide (by decide)
  have hlower : second / 65535 ≤ second / a := Nat.div_le_div_left (Nat.le_of_lt_succ hnarrow) ha
  have hvalue : second / 65535 = 15259 := by decide
  omega

theorem setConnectionSps_of_pos {c : CallConnection} {n : Nat} (hn : 0 < n) :
    c.setConnectionSps n
      = if n % 2 ^ 16 = 0 then none
        else some (⟨some ⟨n % 2 ^ 16, second / (n % 2 ^ 16)⟩⟩, (n : Int)) := by
  have hnarrow : uint16 n = n % 2 ^ 16 := by
    unfold uint16
    omega
  unfold CallConnection.setConnectionSps newRateLimiter
  rw [if_pos (by omega), hnarrow]
  split
  · rfl
  · rfl

theorem rateKept_iff_interval (c : CallConnection) {n : Nat} (hn : 0 < n)
    (hzero : n % 2 ^ 16 ≠ 0) :
    RateKept c n ↔ (n ≤ 1000000000 → second / (n % 2 ^ 16) = second / n) := by
  unfold RateKept
  rw [setConnectionSps_of_pos hn, if_neg hzero]
  constructor
  · rintro ⟨c', hc, h⟩ hle
    obtain ⟨rfl, -⟩ := Prod.mk.inj (Option.some.inj hc)
    obtain ⟨limiter, hlimiter, hgreatest⟩ := h (by omega)
    rw [← Option.some.inj hlimiter, isGreatest_interval_iff hn] at hgreatest
    exact hgreatest
  · intro h
    refine ⟨_, rfl, fun hle => ⟨_, rfl, ?_⟩⟩
    rw [isGreatest_interval_iff hn]
    exact h (by omega)

theorem rateKept_iff (c : CallConnection) {n : Nat} (hn : 0 < n) :
    RateKept c n ↔ n < 2 ^ 16 ∨ (1000000000 < n ∧ n % 2 ^ 16 ≠ 0) := by
  by_cases hzero : n % 2 ^ 16 = 0
  · have hpanic : ¬RateKept c n := by
      rintro ⟨c', hc, -⟩
      rw [setConnectionSps_of_pos hn, if_pos hzero] at hc
      cases hc
    exact iff_of_false hpanic (by omega)
  rw [rateKept_iff_interval c hn hzero]
  constructor
  · intro h
    by_contra hnot
    have hlonger := interval_lt_of_narrow (a := n % 2 ^ 16) (b := n) (by omega) (by omega)
      (by omega)
    have hsame := h (by omega)
    omega
  · rintro (hlt | ⟨hbeyond, -⟩) hle
    · rw [Nat.mod_eq_of_lt hlt]
    · omega

/-- **The configured rate is the enforced one** exactly for rates of 16 bits, or beyond a billion
for those that the narrowing does not make zero. -/
theorem configured_rate_kept_iff (c : CallConnection) (text : List Char)
    (hpos : 0 < parseSps text) :
    RateKept c (parseSps text)
      ↔ parseSps text < 2 ^ 16 ∨ (1000000000 < parseSps text ∧ parseSps text % 2 ^ 16 ≠ 0) := by
  obtain ⟨n, hn⟩ := Int.eq_ofNat_of_zero_le (Int.le_of_lt hpos)
  rw [hn] at hpos ⊢
  rw [rateKept_iff c (by omega)]
  omega

theorem thirty_a_second_kept : RateKept ⟨none⟩ (parseSps ['+', 'O', 'K', ' ', '3', '0']) :=
  (configured_rate_kept_iff ⟨none⟩ _ (by decide)).mpr (.inl (by decide))

/-- At 65536 a second the division is one by zero, and at 65537 the limiter gives one permit a
second. -/
theorem wide_rate_narrowed :
    (⟨none⟩ : CallConnection).setConnectionSps (parseSps ['6', '5', '5', '3', '6']) = none
      ∧ (⟨none⟩ : CallConnection).setConnectionSps (parseSps ['6', '5', '5', '3', '7'])
        = some (⟨some ⟨1, second⟩⟩, 65537) := by
  decide

end CallCenter.ExternalCommands
