import ErrorReport.Json.Shortest
import Mathlib.Algebra.Order.Field.Power
import Mathlib.Algebra.Order.Field.Rat
import Mathlib.Data.Nat.Log
import Mathlib.Tactic.FieldSimp
import Mathlib.Tactic.Linarith
import Mathlib.Tactic.NormNum
import Mathlib.Tactic.Positivity
import Mathlib.Tactic.Ring

/-!
# Reading a double

The numbers that a reader takes for a double form an interval around it (`Nearest`), half a unit of
the last place to either side, and a quarter below a power of two.  `ofQuotient?_of_nearest` and
`ofDecimal?_of_nearest` say that the reader does so: on the grid of the double it rounds to the
double (`roundDiv_of_nearest`), and just below a power of two, on a grid twice as fine, it rounds up
to it (`quotient_below_power`).
-/

set_option autoImplicit false

namespace ErrorReport.Json

namespace Binary64

/-! ## Powers with an integer exponent, in natural numbers -/

theorem zpow_eq_div (g : Rat) (p : Int) : g ^ p = g ^ p.toNat / g ^ (-p).toNat := by
  obtain ⟨n, rfl | rfl⟩ := p.eq_nat_or_neg
  · simp
  · have : (-(n : Int)).toNat = 0 := by omega
    rw [this, neg_neg, Int.toNat_natCast, zpow_neg, zpow_natCast, pow_zero, one_div]

/-! ## Rounding a quotient -/

/-- The rounded quotient is the only number within a half, and a half is for the even one. -/
theorem roundDiv_eq {n d m : Nat} (hd : 0 < d) (hlow : 2 * m * d ≤ 2 * n + d)
    (hhigh : 2 * n ≤ (2 * m + 1) * d)
    (htie : m % 2 = 0 ∨ 2 * m * d < 2 * n + d ∧ 2 * n < (2 * m + 1) * d) : roundDiv n d = m := by
  have hn : d * (n / d) + n % d = n := Nat.div_add_mod n d
  have hr : n % d < d := Nat.mod_lt n hd
  unfold roundDiv
  simp only
  generalize n / d = q at hn
  generalize n % d = r at hn hr
  have hle : m ≤ q + 1 := by
    by_contra hlt
    have : (q + 2) * d ≤ m * d := Nat.mul_le_mul_right d (by omega)
    nlinarith
  have hge : q ≤ m := by
    by_contra hlt
    have : (m + 1) * d ≤ q * d := Nat.mul_le_mul_right d (by omega)
    nlinarith
  obtain rfl | rfl : m = q ∨ m = q + 1 := by omega
  · have h2r : 2 * r ≤ d := by nlinarith
    rcases htie with heven | ⟨-, hstrict⟩
    · rw [if_neg (show ¬d < 2 * r by omega), if_pos heven, ite_self]
    · have : 2 * r < d := by nlinarith
      rw [if_pos this]
  · have h2r : d ≤ 2 * r := by nlinarith
    rw [if_neg (show ¬2 * r < d by omega)]
    rcases htie with heven | ⟨hstrict, -⟩
    · rw [if_neg (show ¬q % 2 = 0 by omega), ite_self]
    · have : d < 2 * r := by nlinarith
      rw [if_pos this]

/-- The power of two below a quotient, as the reader finds it. -/
def quotientExponent (n d : Nat) : Int :=
  let estimate : Int := (Nat.log2 n : Int) - Nat.log2 d
  if d * 2 ^ estimate.toNat ≤ n * 2 ^ (-estimate).toNat then estimate else estimate - 1

theorem ofQuotient?_eq (negative : Bool) (n d : Nat) :
    ofQuotient? negative n d =
      let power := max (quotientExponent n d - 52) (-1074)
      let rounded := roundDiv (n * 2 ^ (-power).toNat) (d * 2 ^ power.toNat)
      if rounded < 2 ^ 53 then assemble? negative rounded power
      else assemble? negative (rounded / 2) (power + 1) := rfl

theorem quotientExponent_bounds {n d : Nat} (hn : 0 < n) (hd : 0 < d) :
    (2 : Rat) ^ quotientExponent n d ≤ n / d ∧ (n / d : Rat) < 2 ^ (quotientExponent n d + 1) := by
  have hn1 : (2 : Rat) ^ (Nat.log2 n : Int) ≤ n := by
    exact_mod_cast Nat.log2_self_le hn.ne'
  have hn2 : (n : Rat) < 2 ^ ((Nat.log2 n : Int) + 1) := by
    exact_mod_cast Nat.lt_log2_self (n := n)
  have hd1 : (2 : Rat) ^ (Nat.log2 d : Int) ≤ d := by
    exact_mod_cast Nat.log2_self_le hd.ne'
  have hd2 : (d : Rat) < 2 ^ ((Nat.log2 d : Int) + 1) := by
    exact_mod_cast Nat.lt_log2_self (n := d)
  have hdpos : (0 : Rat) < d := by exact_mod_cast hd
  set a : Int := (Nat.log2 n : Int) with ha
  set b : Int := (Nat.log2 d : Int) with hb
  have hsplit : ∀ e : Int, (2 : Rat) ^ e * 2 ^ b = 2 ^ (e + b) :=
    fun e => (zpow_add₀ two_ne_zero e b).symm
  have htest : d * 2 ^ (a - b).toNat ≤ n * 2 ^ (-(a - b)).toNat ↔ (2 : Rat) ^ (a - b) ≤ n / d := by
    rw [zpow_eq_div, div_le_div_iff₀ (by positivity) hdpos, mul_comm]
    exact_mod_cast Iff.rfl
  rw [quotientExponent]
  simp only [← ha, ← hb]
  have hupper : (n / d : Rat) < 2 ^ (a - b + 1) := by
    rw [div_lt_iff₀ hdpos]
    calc (n : Rat) < 2 ^ (a + 1) := hn2
      _ = 2 ^ (a - b + 1) * 2 ^ b := by rw [hsplit]; congr 1; omega
      _ ≤ 2 ^ (a - b + 1) * d := by gcongr
  split
  · rename_i h
    exact ⟨htest.1 h, hupper⟩
  · rename_i h
    refine ⟨?_, ?_⟩
    · rw [le_div_iff₀ hdpos]
      calc (2 : Rat) ^ (a - b - 1) * d ≤ 2 ^ (a - b - 1) * 2 ^ (b + 1) := by gcongr
        _ = 2 ^ a := by rw [← zpow_add₀ two_ne_zero]; congr 1; omega
        _ ≤ n := hn1
    · rw [sub_add_cancel]
      exact not_le.1 fun h' => h (htest.2 h')

theorem quotientExponent_eq {n d : Nat} (hn : 0 < n) (hd : 0 < d) {e : Int}
    (hlow : (2 : Rat) ^ e ≤ n / d)
    (hhigh : (n / d : Rat) < 2 ^ (e + 1)) : quotientExponent n d = e := by
  obtain ⟨h1, h2⟩ := quotientExponent_bounds hn hd
  have h3 := (zpow_lt_zpow_iff_right₀ one_lt_two).1 (lt_of_le_of_lt hlow h2)
  have h4 := (zpow_lt_zpow_iff_right₀ one_lt_two).1 (lt_of_le_of_lt h1 hhigh)
  omega

/-- Rounding at a power of two, stated for the quotient itself. -/
theorem roundDiv_shifted {n d : Nat} (hd : 0 < d) (p : Int) (m : Nat)
    (hlow : (2 * m - 1 : Rat) * 2 ^ p ≤ 2 * (n / d))
    (hhigh : 2 * (n / d : Rat) ≤ (2 * m + 1) * 2 ^ p)
    (htie : m % 2 = 0 ∨ (2 * m - 1 : Rat) * 2 ^ p < 2 * (n / d) ∧
    2 * (n / d : Rat) < (2 * m + 1) * 2 ^ p) :
    roundDiv (n * 2 ^ (-p).toNat) (d * 2 ^ p.toNat) = m := by
  have hdpos : (0 : Rat) < d := by exact_mod_cast hd
  have hA : (0 : Rat) < 2 ^ p.toNat := by positivity
  have hB : (0 : Rat) < 2 ^ (-p).toNat := by positivity
  rw [zpow_eq_div] at hlow hhigh htie
  have elow : (2 * m - 1 : Rat) * (2 ^ p.toNat / 2 ^ (-p).toNat) =
      (2 * m - 1 : Rat) * 2 ^ p.toNat / 2 ^ (-p).toNat := by ring
  have ehigh : (2 * m + 1 : Rat) * (2 ^ p.toNat / 2 ^ (-p).toNat) =
      (2 * m + 1 : Rat) * 2 ^ p.toNat / 2 ^ (-p).toNat := by ring
  have emid : 2 * (n / d : Rat) = (2 * n : Rat) / d := by ring
  rw [elow, emid, div_le_div_iff₀ hB hdpos] at hlow
  rw [ehigh, emid, div_le_div_iff₀ hdpos hB] at hhigh
  rw [elow, ehigh, emid, div_lt_div_iff₀ hB hdpos, div_lt_div_iff₀ hdpos hB] at htie
  refine roundDiv_eq (by positivity) ?_ ?_ ?_
  · have : (2 * m * (d * 2 ^ p.toNat) : Rat) ≤ 2 * (n * 2 ^ (-p).toNat) +
        d * 2 ^ p.toNat := by linarith
    exact_mod_cast this
  · have : (2 * (n * 2 ^ (-p).toNat) : Rat) ≤ (2 * m + 1) * (d * 2 ^ p.toNat) := by linarith
    exact_mod_cast this
  · refine htie.imp_right fun h => ⟨?_, ?_⟩
    · have : (2 * m * (d * 2 ^ p.toNat) : Rat) < 2 * (n * 2 ^ (-p).toNat) +
          d * 2 ^ p.toNat := by linarith
      exact_mod_cast this
    · have : (2 * (n * 2 ^ (-p).toNat) : Rat) < (2 * m + 1) * (d * 2 ^ p.toNat) := by linarith
      exact_mod_cast this

/-! ## The interval of a double -/

/-- The lower end of the interval of a double, in quarters of its last place.  Below a power of two
the next double is half as far away. -/
def lowQuarters (x : Binary64) : Nat :=
  if x.fraction = 0 && 1 < x.scale then 4 * x.significand - 1 else 4 * x.significand - 2

/-- The upper end of the interval of a double, in quarters of its last place. -/
def highQuarters (x : Binary64) : Nat := 4 * x.significand + 2

/-- Whether a positive number has the double, taken without its sign, as the nearest one. -/
def Nearest (x : Binary64) (v : Rat) : Prop :=
  if x.significand % 2 = 0 then
    x.lowQuarters * 2 ^ (x.power - 2) ≤ v ∧ v ≤ x.highQuarters * 2 ^ (x.power - 2)
  else x.lowQuarters * 2 ^ (x.power - 2) < v ∧ v < x.highQuarters * 2 ^ (x.power - 2)

theorem Nearest.bounds {x : Binary64} {v : Rat} (h : x.Nearest v) :
    x.lowQuarters * 2 ^ (x.power - 2) ≤ v ∧ v ≤ x.highQuarters * 2 ^ (x.power - 2) := by
  rw [Nearest] at h
  split at h
  · exact h
  · exact ⟨h.1.le, h.2.le⟩

theorem Nearest.odd {x : Binary64} {v : Rat} (h : x.Nearest v) (hodd : ¬x.significand % 2 = 0) :
    x.lowQuarters * 2 ^ (x.power - 2) < v ∧ v < x.highQuarters * 2 ^ (x.power - 2) := by
  rwa [Nearest, if_neg hodd] at h

theorem fraction_lt_two_pow (x : Binary64) : x.fraction < 2 ^ 52 := x.fraction_lt

theorem significand_eq (x : Binary64) :
    x.significand = if x.scale = 0 then x.fraction else 2 ^ 52 + x.fraction := rfl

theorem significand_lt (x : Binary64) : x.significand < 2 ^ 53 := by
  have := x.fraction_lt_two_pow
  rw [significand_eq]
  split <;> omega

theorem power_ge (x : Binary64) : -1074 ≤ x.power := by
  rw [power]
  split <;> omega

theorem power_le (x : Binary64) : x.power ≤ 971 := by
  have := x.scale_lt
  rw [power]
  split <;> omega

theorem significand_of_normal {x : Binary64} (h : x.scale ≠ 0) :
    x.significand = 2 ^ 52 + x.fraction ∧ x.power = x.scale - 1075 := by
  rw [significand_eq, power, if_neg h, if_neg h]
  exact ⟨rfl, rfl⟩

theorem significand_of_subnormal {x : Binary64} (h : x.scale = 0) :
    x.significand = x.fraction ∧ x.power = -1074 := by
  rw [significand_eq, power, if_pos h, if_pos h]
  exact ⟨rfl, rfl⟩

/-- A double is assembled from its own parts. -/
theorem assemble?_self (x : Binary64) : assemble? x.negative x.significand x.power = some x := by
  have hfraction := x.fraction_lt_two_pow
  have hscale := x.scale_lt
  by_cases h : x.scale = 0
  · obtain ⟨hs, hp⟩ := significand_of_subnormal h
    have hlow : x.significand < Nat.pow 2 52 := hs ▸ x.fraction_lt
    rw [assemble?, if_pos hlow]
    obtain ⟨negative, scale, fraction, _, _⟩ := x
    simp only at h hs hfraction ⊢
    subst h
    rw [hs]
    congr 2
    exact Nat.mod_eq_of_lt hfraction
  · obtain ⟨hs, hp⟩ := significand_of_normal h
    have heq : (x.power + 1075).toNat = x.scale := by omega
    have hhigh : ¬x.significand < Nat.pow 2 52 := by
      rw [Nat.pow_eq]
      omega
    rw [assemble?, if_neg hhigh]
    simp only [heq]
    rw [dif_pos hscale]
    obtain ⟨negative, scale, fraction, _, _⟩ := x
    simp only at hs hfraction ⊢
    have hf : (2 ^ 52 + fraction - Nat.pow 2 52) % Nat.pow 2 52 = fraction := by
      rw [Nat.pow_eq, Nat.add_sub_cancel_left, Nat.mod_eq_of_lt hfraction]
    simp only [hs, hf]

theorem lowQuarters_ge (x : Binary64) : 4 * x.significand - 2 ≤ x.lowQuarters := by
  rw [lowQuarters]
  split <;> omega

theorem two_zpow_power (x : Binary64) : (2 : Rat) ^ x.power = 4 * 2 ^ (x.power - 2) := by
  rw [zpow_sub₀ two_ne_zero]
  norm_num
  ring

/-- On its own grid the double is the nearest point. -/
theorem roundDiv_of_nearest {x : Binary64} {n d : Nat} (hd : 0 < d) (h : x.Nearest (n / d)) :
    roundDiv (n * 2 ^ (-x.power).toNat) (d * 2 ^ x.power.toNat) = x.significand := by
  have hupos : (0 : Rat) < 2 ^ (x.power - 2) := by positivity
  have hge : (4 * x.significand - 2 : Rat) ≤ x.lowQuarters := by
    have := x.lowQuarters_ge
    have hnat : 4 * x.significand ≤ x.lowQuarters + 2 := by omega
    have : (4 * x.significand : Rat) ≤ x.lowQuarters + 2 := by exact_mod_cast hnat
    linarith
  have hhi : (x.highQuarters : Rat) = 4 * x.significand + 2 := by simp [highQuarters]
  obtain ⟨hlow, hhigh⟩ := h.bounds
  rw [hhi] at hhigh
  refine roundDiv_shifted hd x.power x.significand ?_ ?_ ?_
  · rw [two_zpow_power]
    nlinarith
  · rw [two_zpow_power]
    nlinarith
  · by_cases heven : x.significand % 2 = 0
    · exact .inl heven
    · obtain ⟨hlow, hhigh⟩ := h.odd heven
      rw [hhi] at hhigh
      rw [two_zpow_power]
      exact .inr ⟨by nlinarith, by nlinarith⟩

/-- No number in the interval of a double reaches the next power of two. -/
theorem lt_of_nearest {x : Binary64} {v : Rat} (h : x.Nearest v) : v < 2 ^ (x.power + 53) := by
  have hupos : (0 : Rat) < 2 ^ (x.power - 2) := by positivity
  have htop : (2 : Rat) ^ (x.power + 53) = 2 ^ 55 * 2 ^ (x.power - 2) := by
    rw [show x.power + 53 = 55 + (x.power - 2) by omega, zpow_add₀ two_ne_zero]
    norm_num
  have hhi : (x.highQuarters : Rat) = 4 * x.significand + 2 := by simp [highQuarters]
  have hlt := x.significand_lt
  rw [htop]
  by_cases hmax : x.significand = 2 ^ 53 - 1
  · obtain ⟨-, hhigh⟩ := h.odd (by rw [hmax]; decide)
    rw [hhi, hmax] at hhigh
    norm_num at hhigh ⊢
    linarith
  · have hm : (x.significand : Rat) ≤ 2 ^ 53 - 2 := by
      have : x.significand + 2 ≤ 2 ^ 53 := by omega
      have : ((x.significand + 2 : Nat) : Rat) ≤ ((2 ^ 53 : Nat) : Rat) := by exact_mod_cast this
      push_cast at this
      linarith
    obtain ⟨-, hhigh⟩ := h.bounds
    rw [hhi] at hhigh
    nlinarith

/-- Below a double that is a power of two, the numbers that are read as it round up to it. -/
theorem quotient_below_power {x : Binary64} {n d : Nat} (hn : 0 < n) (hd : 0 < d)
    (h : x.Nearest (n / d)) (hscale : 1 < x.scale) (hbelow : (n / d : Rat) < 2 ^ (x.power + 52)) :
    ofQuotient? x.negative n d = some x := by
  have hupos : (0 : Rat) < 2 ^ (x.power - 2) := by positivity
  have htop : (2 : Rat) ^ (x.power + 52) = 2 ^ 54 * 2 ^ (x.power - 2) := by
    rw [show x.power + 52 = 54 + (x.power - 2) by omega, zpow_add₀ two_ne_zero]
    norm_num
  obtain ⟨hs, hp⟩ := significand_of_normal (x := x) (by omega)
  obtain ⟨hlow, -⟩ := h.bounds
  have hlt : x.lowQuarters < 2 ^ 54 := by
    have hlt : (x.lowQuarters : Rat) * 2 ^ (x.power - 2) < 2 ^ 54 * 2 ^ (x.power - 2) := by
      rw [← htop]
      exact lt_of_le_of_lt hlow hbelow
    have := (mul_lt_mul_iff_of_pos_right hupos).1 hlt
    exact_mod_cast this
  have hzero : x.fraction = 0 := by
    rw [lowQuarters] at hlt
    split at hlt
    · rename_i hboth
      simp only [Bool.and_eq_true, decide_eq_true_eq] at hboth
      exact hboth.1
    · omega
  have hquarters : x.lowQuarters = 2 ^ 54 - 1 := by
    simp [lowQuarters, hzero, hscale, hs]
  rw [hquarters] at hlow
  have hhalf : (2 : Rat) ^ (x.power - 1) = 2 * 2 ^ (x.power - 2) := by
    rw [show x.power - 1 = 1 + (x.power - 2) by omega, zpow_add₀ two_ne_zero]
    norm_num
  have hexp : quotientExponent n d = x.power + 51 := by
    refine quotientExponent_eq hn hd ?_ ?_
    · rw [show x.power + 51 = 53 + (x.power - 2) by omega, zpow_add₀ two_ne_zero]
      norm_num at hlow ⊢
      linarith
    · rw [show x.power + 51 + 1 = x.power + 52 by omega]
      exact hbelow
  have hround : roundDiv (n * 2 ^ (-(x.power - 1)).toNat) (d * 2 ^ (x.power - 1).toNat) =
      2 ^ 53 := by
    rw [htop] at hbelow
    refine roundDiv_shifted hd (x.power - 1) (2 ^ 53) ?_ ?_ (.inl (by decide))
    · rw [hhalf]
      norm_num at hlow ⊢
      linarith
    · rw [hhalf]
      norm_num at hbelow ⊢
      linarith
  rw [ofQuotient?_eq, hexp]
  have hmax : max (x.power + 51 - 52) (-1074) = x.power - 1 := by omega
  simp only [hmax, hround]
  rw [if_neg (by decide), sub_add_cancel, show 2 ^ 53 / 2 = x.significand by omega]
  exact assemble?_self x

/-- **A quotient in the interval of a double is read as that double.** -/
theorem ofQuotient?_of_nearest {x : Binary64} {n d : Nat} (hn : 0 < n) (hd : 0 < d)
    (h : x.Nearest (n / d)) : ofQuotient? x.negative n d = some x := by
  have hlt := x.significand_lt
  obtain ⟨h1, h2⟩ := quotientExponent_bounds hn hd
  -- either the reader takes the grid of the double, or the number is below a power of two
  by_cases hpower : max (quotientExponent n d - 52) (-1074) = x.power
  · rw [ofQuotient?_eq]
    simp only [hpower]
    rw [roundDiv_of_nearest hd h, if_pos hlt]
    exact assemble?_self x
  · have hge := x.power_ge
    have hbelow : (n / d : Rat) < 2 ^ (x.power + 52) := by
      by_contra hnot
      have hnext := lt_of_nearest h
      rw [show x.power + 53 = x.power + 52 + 1 by omega] at hnext
      have hexp := quotientExponent_eq hn hd (not_lt.1 hnot) hnext
      omega
    refine quotient_below_power hn hd h ?_ hbelow
    by_contra hscale
    have hp : x.power = -1074 := by
      rw [power]
      split <;> omega
    have := (zpow_lt_zpow_iff_right₀ (one_lt_two (α := Rat))).1 (lt_of_le_of_lt h1 hbelow)
    omega

theorem pos_of_nearest {x : Binary64} {v : Rat} (hx : x.significand ≠ 0) (h : x.Nearest v) :
    (2 : Rat) ^ (x.power - 1) ≤ v := by
  have htwo : 2 ≤ x.lowQuarters := by
    have := x.lowQuarters_ge
    omega
  calc (2 : Rat) ^ (x.power - 1) = 2 * 2 ^ (x.power - 2) := by
        rw [show x.power - 1 = 1 + (x.power - 2) by omega, zpow_add₀ two_ne_zero]
        norm_num
    _ ≤ x.lowQuarters * 2 ^ (x.power - 2) := by
        have : (2 : Rat) ≤ x.lowQuarters := by exact_mod_cast htwo
        gcongr
    _ ≤ v := h.bounds.1

theorem ten_zpow_le {e : Int} (he : e ≤ 0) : (10 : Rat) ^ e ≤ 2 ^ e := by
  obtain ⟨k, rfl⟩ := Int.exists_eq_neg_ofNat he
  rw [zpow_neg, zpow_neg, zpow_natCast, zpow_natCast]
  gcongr
  norm_num

/-- **A decimal in the interval of a double is read as that double.** -/
theorem ofDecimal?_of_nearest {x : Binary64} {digits : Nat} {exponent : Int}
    (hx : x.significand ≠ 0)
    (h : x.Nearest (digits * 10 ^ exponent)) : ofDecimal? x.negative digits exponent = some x := by
  have hlow := pos_of_nearest hx h
  have hhigh := lt_of_nearest h
  have hfloor := x.power_ge
  have hceil := x.power_le
  have hpos : (0 : Rat) < digits * 10 ^ exponent := lt_of_lt_of_le (by positivity) hlow
  have hdigits : digits ≠ 0 := by
    rintro rfl
    simp at hpos
  have hone : (1 : Rat) ≤ digits := by exact_mod_cast Nat.one_le_iff_ne_zero.2 hdigits
  have hlarge : ¬exponent > 400 := by
    intro hgt
    have h1 : (10 : Rat) ^ (401 : Int) ≤ 10 ^ exponent :=
      zpow_le_zpow_right₀ (by norm_num) (by omega)
    have h2 : (2 : Rat) ^ (x.power + 53) ≤ 2 ^ (1024 : Int) :=
      zpow_le_zpow_right₀ (by norm_num) (by omega)
    have h3 : (2 : Rat) ^ (1024 : Int) < 10 ^ (401 : Int) := by
      calc (2 : Rat) ^ (1024 : Int) = (2 ^ 64) ^ 16 := by rw [← pow_mul]; rfl
        _ < (10 ^ 25) ^ 16 := by gcongr; norm_num
        _ = 10 ^ (400 : Int) := by rw [← pow_mul]; rfl
        _ ≤ 10 ^ (401 : Int) := zpow_le_zpow_right₀ (by norm_num) (by omega)
    have h4 : (10 : Rat) ^ exponent ≤ digits * 10 ^ exponent :=
      le_mul_of_one_le_left (by positivity) hone
    exact absurd (hhigh.trans_le (h2.trans (h3.le.trans (h1.trans h4)))) (lt_irrefl _)
  have hsmall : ¬exponent + Nat.log2 digits < -1200 := by
    intro hlt
    have h1 : (digits : Rat) < 2 ^ ((Nat.log2 digits : Int) + 1) := by
      exact_mod_cast Nat.lt_log2_self (n := digits)
    have h2 : (10 : Rat) ^ exponent ≤ 2 ^ exponent := ten_zpow_le (by omega)
    have h3 : (digits * 10 ^ exponent : Rat) < 2 ^ (x.power - 1) := by
      calc (digits * 10 ^ exponent : Rat) ≤ digits * 2 ^ exponent := by gcongr
        _ < 2 ^ ((Nat.log2 digits : Int) + 1) * 2 ^ exponent := by gcongr
        _ = 2 ^ ((Nat.log2 digits : Int) + 1 + exponent) := (zpow_add₀ two_ne_zero _ _).symm
        _ ≤ 2 ^ (x.power - 1) := zpow_le_zpow_right₀ (by norm_num) (by omega)
    exact absurd hlow (not_le.2 h3)
  rw [ofDecimal?, if_neg hdigits, if_neg hlarge, if_neg hsmall]
  rw [Nat.pow_eq, Nat.pow_eq]
  refine ofQuotient?_of_nearest (by positivity) (by positivity) ?_
  rw [zpow_eq_div] at h
  push_cast
  rw [mul_div_assoc]
  exact h

end Binary64
end ErrorReport.Json
