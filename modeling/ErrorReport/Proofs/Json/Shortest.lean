import ErrorReport.Proofs.Json.Binary64

/-!
# The shortest decimal reads back

Whatever `shortest` finds lies in the interval of the double, and it always finds something: on the
grid of seventeen digits one step is less than the interval is wide (`withDigits?_seventeen`).  That
takes no more of `decimalExponent` than that it is not too large.
-/

set_option autoImplicit false

namespace ErrorReport.Json

/-- The value of a decimal. -/
def Decimal.value (d : Decimal) : Rat := d.digits * 10 ^ d.exponent

theorem Decimal.stripZeros_value (count : Nat) (d : Decimal) :
    (d.stripZeros count).value = d.value := by
  induction count generalizing d with
  | zero => rfl
  | succ count ih =>
    rw [stripZeros]
    split
    · rename_i h
      rw [ih, value, value]
      have hten : d.digits = d.digits / 10 * 10 := by omega
      rw [show (d.digits : Rat) = (d.digits / 10 : Nat) * 10 by exact_mod_cast hten]
      rw [zpow_add₀ (by norm_num)]
      ring
    · rfl

namespace Binary64

/-! ## Points of the grid -/

theorem scale_le_iff (power ten : Int) (a c : Nat) :
    a * (Scale.of power ten).unit ≤ c * (Scale.of power ten).step ↔
      (a : Rat) * 2 ^ (power - 2) ≤ c * 10 ^ ten := by
  rw [zpow_eq_div 2, zpow_eq_div 10, neg_sub, ← mul_div_assoc, ← mul_div_assoc,
    div_le_div_iff₀ (by positivity) (by positivity), mul_assoc, mul_assoc]
  exact_mod_cast Iff.rfl

theorem scale_le_iff' (power ten : Int) (a c : Nat) :
    c * (Scale.of power ten).step ≤ a * (Scale.of power ten).unit ↔
      (c : Rat) * 10 ^ ten ≤ a * 2 ^ (power - 2) := by
  rw [zpow_eq_div 2, zpow_eq_div 10, neg_sub, ← mul_div_assoc, ← mul_div_assoc,
    div_le_div_iff₀ (by positivity) (by positivity), mul_assoc, mul_assoc]
  exact_mod_cast Iff.rfl

/-- The test of the writer is the interval of the double. -/
theorem readsBack_iff (x : Binary64) (ten : Int) (c : Nat) :
    x.readsBack (Scale.of x.power ten) c = true ↔ x.Nearest (c * 10 ^ ten) := by
  have hlow := scale_le_iff x.power ten x.lowQuarters c
  have hlow' := not_congr (scale_le_iff' x.power ten x.lowQuarters c)
  have hhigh := scale_le_iff' x.power ten x.highQuarters c
  have hhigh' := not_congr (scale_le_iff x.power ten x.highQuarters c)
  rw [not_le, not_le] at hlow' hhigh'
  unfold readsBack Nearest
  simp only
  by_cases heven : x.significand % 2 = 0
  · rw [if_pos heven, if_pos heven, Bool.and_eq_true, decide_eq_true_eq, decide_eq_true_eq]
    exact and_congr hlow hhigh
  · rw [if_neg heven, if_neg heven, Bool.and_eq_true, decide_eq_true_eq, decide_eq_true_eq]
    exact and_congr hlow' hhigh'

/-- The power of ten of the grid with so many digits. -/
def gridExponent (x : Binary64) (count : Nat) : Int := x.decimalExponent - count + 1

/-- The point of the grid at or below the double. -/
def belowPoint (x : Binary64) (count : Nat) : Nat :=
  4 * x.significand * (Scale.of x.power (x.gridExponent count)).unit /
    (Scale.of x.power (x.gridExponent count)).step

/-- The point of the grid that is nearest to the double. -/
def nearerPoint (x : Binary64) (count : Nat) : Nat :=
  let s := Scale.of x.power (x.gridExponent count)
  let value := 4 * x.significand * s.unit
  let below := x.belowPoint count
  let toBelow := value - below * s.step
  let toAbove := (below + 1) * s.step - value
  if toBelow < toAbove || (toBelow == toAbove && below % 2 == 0) then below else below + 1

/-- The point of the grid on the other side of the double. -/
def fartherPoint (x : Binary64) (count : Nat) : Nat :=
  if x.nearerPoint count == x.belowPoint count then x.belowPoint count + 1 else x.belowPoint count

theorem withDigits?_eq (x : Binary64) (count : Nat) :
    x.withDigits? count =
      if x.readsBack (Scale.of x.power (x.gridExponent count)) (x.nearerPoint count) then
        some (Decimal.stripZeros count ⟨x.nearerPoint count, x.gridExponent count⟩)
      else if x.readsBack (Scale.of x.power (x.gridExponent count)) (x.fartherPoint count) then
        some (Decimal.stripZeros count ⟨x.fartherPoint count, x.gridExponent count⟩)
      else none := rfl

theorem withDigits?_nearest {x : Binary64} {count : Nat} {d : Decimal}
    (h : x.withDigits? count = some d) :
    x.Nearest d.value := by
  rw [withDigits?_eq] at h
  split at h
  · rename_i hback
    rw [← Option.some.inj h, Decimal.stripZeros_value]
    exact (readsBack_iff x _ _).1 hback
  · split at h
    · rename_i hback
      rw [← Option.some.inj h, Decimal.stripZeros_value]
      exact (readsBack_iff x _ _).1 hback
    · exact absurd h (by simp)

/-! ## The first digit -/

theorem ten_pow_le_two_pow {k j : Nat} (h : 196 * k ≤ 59 * j) : (10 : Rat) ^ k ≤ 2 ^ j := by
  refine (pow_le_pow_iff_left₀ (by positivity) (by positivity) (show 59 ≠ 0 by decide)).1 ?_
  calc ((10 : Rat) ^ k) ^ 59 = (10 ^ 59) ^ k := by rw [← pow_mul, ← pow_mul, mul_comm]
    _ ≤ (2 ^ 196) ^ k := by gcongr; norm_num
    _ = 2 ^ (196 * k) := by rw [← pow_mul]
    _ ≤ 2 ^ (59 * j) := pow_le_pow_right₀ (by norm_num) h
    _ = (2 ^ j) ^ 59 := by rw [← pow_mul, mul_comm]

theorem two_pow_le_ten_pow {k j : Nat} (h : 28 * j ≤ 93 * k) : (2 : Rat) ^ j ≤ 10 ^ k := by
  refine (pow_le_pow_iff_left₀ (by positivity) (by positivity) (show 28 ≠ 0 by decide)).1 ?_
  calc ((2 : Rat) ^ j) ^ 28 = 2 ^ (28 * j) := by rw [← pow_mul, mul_comm]
    _ ≤ 2 ^ (93 * k) := pow_le_pow_right₀ (by norm_num) h
    _ = (2 ^ 93) ^ k := by rw [← pow_mul]
    _ ≤ (10 ^ 28) ^ k := by gcongr; norm_num
    _ = (10 ^ k) ^ 28 := by rw [← pow_mul, ← pow_mul, mul_comm]

/-- Over the whole range of doubles the estimate is too large by one at most. -/
theorem ten_zpow_estimate {e : Int} (hlow : -1074 ≤ e) (hhigh : e ≤ 1023) :
    (10 : Rat) ^ (e * 30103 / 100000 - 1) ≤ 2 ^ e := by
  by_cases hsign : 0 ≤ e * 30103 / 100000 - 1
  · obtain ⟨k, hk⟩ := Int.eq_ofNat_of_zero_le hsign
    obtain ⟨j, hj⟩ := Int.eq_ofNat_of_zero_le (show 0 ≤ e by omega)
    rw [hk, hj, zpow_natCast, zpow_natCast]
    exact ten_pow_le_two_pow (by omega)
  · obtain ⟨k, hk⟩ := Int.exists_eq_neg_ofNat (show e * 30103 / 100000 - 1 ≤ 0 by omega)
    by_cases he : 0 ≤ e
    · calc (10 : Rat) ^ (e * 30103 / 100000 - 1) ≤ 10 ^ (0 : Int) :=
            zpow_le_zpow_right₀ (by norm_num) (by omega)
        _ = 2 ^ (0 : Int) := by norm_num
        _ ≤ 2 ^ e := zpow_le_zpow_right₀ (by norm_num) he
    · obtain ⟨j, hj⟩ := Int.exists_eq_neg_ofNat (show e ≤ 0 by omega)
      rw [hk, hj, zpow_neg, zpow_neg, zpow_natCast, zpow_natCast]
      exact inv_anti₀ (by positivity) (two_pow_le_ten_pow (by omega))

/-- The double is at least the power of ten that is taken for its first digit. -/
theorem decimalExponent_le {x : Binary64} (hx : x.significand ≠ 0) :
    (10 : Rat) ^ x.decimalExponent ≤ (4 * x.significand : Nat) * 2 ^ (x.power - 2) := by
  have htest : ∀ e : Int,
      (decide ((Scale.of x.power e).step ≤ 4 * x.significand * (Scale.of x.power e).unit)) = true ↔
        (10 : Rat) ^ e ≤ (4 * x.significand : Nat) * 2 ^ (x.power - 2) := by
    intro e
    have := scale_le_iff' x.power e (4 * x.significand) 1
    rw [one_mul, Nat.cast_one, one_mul] at this
    rw [decide_eq_true_eq]
    exact this
  have hlog : Nat.log2 x.significand ≤ 52 := by
    have := (Nat.log2_lt hx).2 x.significand_lt
    omega
  have hpower : (2 : Rat) ^ ((Nat.log2 x.significand : Int) + x.power) ≤
      (4 * x.significand : Nat) * 2 ^ (x.power - 2) := by
    have hle : (2 : Rat) ^ (Nat.log2 x.significand : Int) ≤ x.significand := by
      exact_mod_cast Nat.log2_self_le hx
    rw [zpow_add₀ two_ne_zero, two_zpow_power]
    push_cast
    nlinarith [show (0 : Rat) < 2 ^ (x.power - 2) by positivity]
  have hfloor := x.power_ge
  have hceil := x.power_le
  rw [decimalExponent]
  simp only
  split
  · exact (ten_zpow_estimate (by omega) (by omega)).trans hpower
  · rename_i hat
    split
    · rename_i hnext
      exact (htest _).1 hnext
    · simp only [Bool.not_eq_true', Bool.not_eq_false] at hat
      exact (htest _).1 hat

/-! ## Seventeen digits -/

/-- The nearest point is half a step away at most. -/
theorem nearerPoint_bounds (x : Binary64) (count : Nat) :
    let s := Scale.of x.power (x.gridExponent count)
    2 * (x.nearerPoint count * s.step) ≤ 2 * (4 * x.significand * s.unit) + s.step ∧
      2 * (4 * x.significand * s.unit) ≤ 2 * (x.nearerPoint count * s.step) + s.step := by
  intro s
  have hstep : 0 < s.step := by
    show 0 < 10 ^ _ * 2 ^ _
    positivity
  have hdiv : s.step * x.belowPoint count + 4 * x.significand * s.unit % s.step =
      4 * x.significand * s.unit :=
    Nat.div_add_mod _ _
  have hmod : 4 * x.significand * s.unit % s.step < s.step := Nat.mod_lt _ hstep
  rw [mul_comm] at hdiv
  unfold nearerPoint
  simp only
  rw [show Scale.of x.power (x.gridExponent count) = s from rfl]
  have hsucc : (x.belowPoint count + 1) * s.step = x.belowPoint count * s.step + s.step :=
    Nat.succ_mul _ _
  rw [hsucc]
  generalize 4 * x.significand * s.unit % s.step = r at hdiv hmod
  generalize 4 * x.significand * s.unit = value at hdiv ⊢
  split
  · rename_i h
    simp only [Bool.or_eq_true, Bool.and_eq_true, decide_eq_true_eq, beq_iff_eq] at h
    omega
  · rename_i h
    simp only [Bool.or_eq_true, Bool.and_eq_true, decide_eq_true_eq, beq_iff_eq, not_or,
      not_and] at h
    rw [hsucc]
    omega

/-- **Seventeen digits always suffice.** -/
theorem withDigits?_seventeen {x : Binary64} (hx : x.significand ≠ 0) :
    (x.withDigits? 17).isSome := by
  set s := Scale.of x.power (x.gridExponent 17) with hs
  obtain ⟨hupper, hlower⟩ := x.nearerPoint_bounds 17
  simp only [← hs] at hupper hlower
  -- one step of the grid is a part in ten to the sixteenth of the double
  have hfine : 10 ^ 16 * s.step ≤ 4 * x.significand * s.unit := by
    rw [hs]
    refine (scale_le_iff' _ _ _ _).2 ?_
    calc ((10 ^ 16 : Nat) : Rat) * 10 ^ x.gridExponent 17 = 10 ^ x.decimalExponent := by
          rw [show x.decimalExponent = 16 + x.gridExponent 17 by unfold gridExponent; omega,
            zpow_add₀ (by norm_num)]
          norm_num
      _ ≤ (4 * x.significand : Nat) * 2 ^ (x.power - 2) := decimalExponent_le hx
  have hlt := x.significand_lt
  have hunit : 0 < s.unit := by
    show 0 < 2 ^ _ * 10 ^ _
    positivity
  have hbound : x.significand * s.unit ≤ 2 ^ 53 * s.unit := Nat.mul_le_mul_right _ hlt.le
  have hone : s.unit ≤ x.significand * s.unit := Nat.le_mul_of_pos_left _ (Nat.pos_of_ne_zero hx)
  have hvalue : 4 * x.significand * s.unit = 4 * (x.significand * s.unit) := Nat.mul_assoc _ _ _
  have hlow : x.lowQuarters * s.unit < x.nearerPoint 17 * s.step := by
    rw [lowQuarters]
    split
    · rename_i hpower
      simp only [Bool.and_eq_true, decide_eq_true_eq] at hpower
      obtain ⟨hm, -⟩ := significand_of_normal (x := x) (by omega)
      rw [hpower.1, Nat.add_zero] at hm
      rw [hm] at hvalue hupper hlower hfine ⊢
      rw [Nat.sub_mul]
      omega
    · rw [Nat.sub_mul]
      omega
  have hhigh : x.nearerPoint 17 * s.step < x.highQuarters * s.unit := by
    rw [highQuarters]
    rw [Nat.add_mul]
    omega
  have hback : x.readsBack s (x.nearerPoint 17) = true := by
    rw [hs] at hlow hhigh ⊢
    rw [readsBack_iff]
    have hlow' := (not_congr (scale_le_iff' x.power _ _ _)).1 (not_le.2 hlow)
    have hhigh' := (not_congr (scale_le_iff x.power _ _ _)).1 (not_le.2 hhigh)
    rw [not_le] at hlow' hhigh'
    rw [Nearest]
    split
    · exact ⟨hlow'.le, hhigh'.le⟩
    · exact ⟨hlow', hhigh'⟩
  rw [withDigits?_eq, ← hs, if_pos hback]
  rfl

/-- **The shortest decimal of a double lies in its interval.** -/
theorem shortest_nearest {x : Binary64} (hx : x.significand ≠ 0) : x.Nearest x.shortest.value := by
  have hsome : ((List.range 17).findSome? fun n => x.withDigits? (n + 1)).isSome := by
    rw [List.findSome?_isSome_iff]
    exact ⟨16, by decide, withDigits?_seventeen hx⟩
  obtain ⟨d, hd⟩ := Option.isSome_iff_exists.1 hsome
  obtain ⟨n, -, hn⟩ := List.exists_of_findSome?_eq_some hd
  rw [shortest, hd]
  exact withDigits?_nearest hn

end Binary64
end ErrorReport.Json
