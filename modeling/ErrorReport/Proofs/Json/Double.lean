import ErrorReport.Proofs.Json.Numeral
import ErrorReport.Proofs.Json.Shortest

/-!
# Reading doubles back

A decimal is laid out in one of four ways, and each of them is a numeral of the decimal's value:
`spells_whole`, `spells_inner`, `spells_below_one` and `spells_scientific`.  The decimal of a double
lies in its interval, so the reader comes back to the double (`isNumeral_real`).
-/

set_option autoImplicit false

namespace ErrorReport.Json

open Reader

namespace Numeral

/-- The value of a numeral without its sign. -/
def value (n : Numeral) : Rat := n.digits * 10 ^ n.shift

/-- Whether a text, after a sign, is a numeral of the given value with a point or an exponent. -/
def Spells (negative : Bool) (s : List Char) (v : Rat) : Prop :=
  ∃ n : Numeral, n.negative = negative ∧ (n.fraction.isSome ∨ n.exponent.isSome) ∧ n.value = v ∧
    n.text = (if negative then ['-'] else []) ++ s

theorem spells_positional (negative : Bool) {whole fraction : List Char}
    (hwhole : ∀ c ∈ whole, c.isDigit)
    (hstart : whole = ['0'] ∨ whole ≠ [] ∧ whole.head? ≠ some '0') (hne : fraction ≠ [])
    (hfraction : ∀ c ∈ fraction, c.isDigit) :
    Spells negative (whole ++ '.' :: fraction)
      (digitsValue (whole ++ fraction) * 10 ^ (-(fraction.length : Int))) := by
  refine ⟨⟨negative, whole, some fraction, none, hwhole, hstart, ?_, by simp⟩, rfl, .inl rfl, ?_,
    ?_⟩
  · intro f hf
    obtain rfl := Option.some.inj hf
    exact ⟨hne, hfraction⟩
  · show (digitsValue (whole ++ fraction) : Rat) * 10 ^ ((0 : Int) - fraction.length) = _
    rw [zero_sub]
  · simp [text, signText, fractionText, exponentText]

/-- The digits with a point after the first one, if there are more. -/
def mantissaText : List Char → List Char
  | [] => []
  | [digit] => [digit]
  | digit :: more => digit :: '.' :: more

section

variable (negative : Bool) {digits : List Char} (hdigits : ∀ c ∈ digits, c.isDigit)
    (hne : digits ≠ [])

include hdigits hne

/-- A number below one has zeros after the point. -/
theorem spells_below_one (k : Nat) :
    Spells negative ('0' :: '.' :: List.replicate k '0' ++ digits)
      (digitsValue digits * 10 ^ (-(k : Int) - digits.length)) := by
  have hfraction : ∀ c ∈ List.replicate k '0' ++ digits, c.isDigit := by
    intro c hc
    rcases List.mem_append.1 hc with hc | hc
    · rw [List.eq_of_mem_replicate hc]; decide
    · exact hdigits c hc
  have hzero : ∀ c ∈ ['0'], c.isDigit := List.forall_mem_singleton.2 (by decide)
  have h := spells_positional negative hzero (.inl rfl) (by simp [hne]) hfraction
  rw [← List.replicate_one, ← List.append_assoc, ← List.replicate_add, digitsValue_zeros_append,
    List.length_append, List.length_replicate] at h
  rwa [show (-((k + digits.length : Nat) : Int)) = -(k : Int) - digits.length by omega] at h

variable (hhead : digits.head? ≠ some '0')

include hhead

/-- A whole number has zeros up to the point and one more after it. -/
theorem spells_whole (k : Nat) :
    Spells negative (digits ++ List.replicate k '0' ++ ['.', '0'])
      (digitsValue digits * 10 ^ (k : Int)) := by
  have hzero : ∀ c ∈ ['0'], c.isDigit := List.forall_mem_singleton.2 (by decide)
  have hwhole : ∀ c ∈ digits ++ List.replicate k '0', c.isDigit := by
    intro c hc
    rcases List.mem_append.1 hc with hc | hc
    · exact hdigits c hc
    · rw [List.eq_of_mem_replicate hc]; decide
  have hstart : (digits ++ List.replicate k '0').head? ≠ some '0' := by
    rwa [List.head?_append_of_ne_nil _ hne]
  have h := spells_positional negative hwhole (.inr ⟨by simp [hne], hstart⟩) (by simp) hzero
  have hvalue :
      (digitsValue (digits ++ List.replicate k '0' ++ ['0']) : Rat) * 10 ^ (-(['0'].length : Int)) =
      digitsValue digits * 10 ^ (k : Int) := by
    rw [List.append_assoc, ← List.replicate_one, ← List.replicate_add, digitsValue_append_zeros]
    push_cast
    rw [show ((['0'].length : Nat) : Int) = 1 from rfl, zpow_neg, zpow_one, zpow_natCast, pow_succ]
    field_simp
  rwa [hvalue] at h

/-- A number with its point among the digits. -/
theorem spells_inner {k : Nat} (hpos : 0 < k) (hlt : k < digits.length) :
    Spells negative (digits.take k ++ '.' :: digits.drop k)
      (digitsValue digits * 10 ^ ((k : Int) - digits.length)) := by
  have hstart : (digits.take k).head? ≠ some '0' := by
    rwa [List.head?_take, if_neg (by omega)]
  have htake : digits.take k ≠ [] := by
    rw [Ne, List.take_eq_nil_iff]
    rintro (h | h)
    · omega
    · exact hne h
  have hdrop : digits.drop k ≠ [] := by
    rw [Ne, List.drop_eq_nil_iff]
    omega
  have h :=
    spells_positional negative (fun c hc => hdigits c (List.mem_of_mem_take hc))
      (.inr ⟨htake, hstart⟩)
    hdrop (fun c hc => hdigits c (List.mem_of_mem_drop hc))
  rw [List.take_append_drop, List.length_drop] at h
  rwa [show (-((digits.length - k : Nat) : Int)) = (k : Int) - digits.length by omega] at h

/-- A number with one digit before the point and an exponent. -/
theorem spells_scientific (e : Int) :
    Spells negative
      (mantissaText digits ++ (if e < 0 then ['e', '-'] else ['e', '+']) ++
        Nat.toDigits 10 e.natAbs)
      (digitsValue digits * 10 ^ (e - digits.length + 1)) := by
  have hexp : ∀ p ∈ some (decide (e < 0), Nat.toDigits 10 e.natAbs), p.2 ≠ [] ∧
      ∀ c ∈ p.2, c.isDigit := by
    intro p hp
    obtain rfl := Option.some.inj hp
    exact ⟨Nat.toDigits_ne_nil, fun c hc => Text.isDigit_of_mem_decimal hc⟩
  have hpower : (if (decide (e < 0)) = true then -(digitsValue (Nat.toDigits 10 e.natAbs) : Int)
      else digitsValue (Nat.toDigits 10 e.natAbs)) = e := by
    rw [digitsValue_toDigits]
    split
    · rename_i h; rw [decide_eq_true_eq] at h; omega
    · rename_i h; rw [decide_eq_true_eq] at h; omega
  match digits, hne with
  | [digit], _ =>
    refine ⟨⟨negative, [digit], none, some (decide (e < 0), Nat.toDigits 10 e.natAbs), hdigits,
      .inr ⟨by simp, hhead⟩, by simp, hexp⟩, rfl, .inr rfl, ?_, ?_⟩
    · show (digitsValue ([digit] ++ []) : Rat) * 10 ^
          ((if (decide (e < 0)) = true then _ else _) - ((0 : Nat) : Int)) = _
      rw [hpower, List.append_nil]
      congr 2
      simp
    · simp only [text, signText, fractionText, exponentText, mantissaText]
      by_cases he : e < 0 <;> simp [he]
  | digit :: next :: more, _ =>
    refine ⟨⟨negative, [digit], some (next :: more),
      some (decide (e < 0), Nat.toDigits 10 e.natAbs), ?_, .inr ⟨by simp, ?_⟩, ?_, hexp⟩, rfl,
      .inl rfl, ?_, ?_⟩
    · intro c hc
      exact hdigits c (List.mem_cons.2 (.inl (List.mem_singleton.1 hc)))
    · exact hhead
    · intro f hf
      obtain rfl := Option.some.inj hf
      exact ⟨by simp, fun c hc => hdigits c (List.mem_cons_of_mem _ hc)⟩
    · show (digitsValue ([digit] ++ next :: more) : Rat) *
        10 ^ ((if (decide (e < 0)) = true then _ else _) - ((next :: more).length : Int)) = _
      rw [hpower]
      congr 2
      simp only [List.length_cons]
      omega
    · simp only [text, signText, fractionText, exponentText, mantissaText]
      by_cases he : e < 0 <;> simp [he]

end

/-- Every decimal other than zero is written as a numeral of its value. -/
theorem spells_decimal (negative : Bool) {d : Decimal} (hd : d.digits ≠ 0) :
    Spells negative (documentLayout.write d) d.value := by
  have hdigits : ∀ c ∈ Nat.toDigits 10 d.digits, c.isDigit := fun c hc =>
    Text.isDigit_of_mem_decimal hc
  have hne : Nat.toDigits 10 d.digits ≠ [] := Nat.toDigits_ne_nil
  have hhead := Text.head?_toDigits hd
  have hlength : 0 < (Nat.toDigits 10 d.digits).length := List.length_pos_of_ne_nil hne
  have hvalue : d.value = digitsValue (Nat.toDigits 10 d.digits) * 10 ^ d.exponent := by
    rw [digitsValue_toDigits]
    rfl
  rw [hvalue]
  rw [Layout.write]
  simp only
  generalize Nat.toDigits 10 d.digits = digits at hdigits hne hhead hlength
  split
  · split
    · rename_i hexp
      obtain ⟨k, hk⟩ := Int.eq_ofNat_of_zero_le hexp
      rw [hk]
      exact spells_whole negative hdigits hne hhead k
    · split
      · rename_i hexp hfirst
        have h := spells_inner negative hdigits hne hhead
          (k := (d.exponent + digits.length - 1).toNat + 1) (by omega) (by omega)
        rwa [show (((d.exponent + digits.length - 1).toNat + 1 : Nat) : Int) - digits.length =
          d.exponent by omega]
          at h
      · rename_i hexp hfirst
        have h := spells_below_one negative hdigits hne
          (-(d.exponent + digits.length - 1) - 1).toNat
        rwa [show -(((-(d.exponent + digits.length - 1) - 1).toNat : Nat) : Int) - digits.length =
          d.exponent by omega]
          at h
  · have h := spells_scientific negative hdigits hne hhead (d.exponent + digits.length - 1)
    rw [show d.exponent + digits.length - 1 - digits.length + 1 = d.exponent by omega] at h
    exact h

end Numeral

theorem Binary64.eq_zero {x : Binary64} (h : x.significand = 0) : x = zero x.negative := by
  rw [significand] at h
  obtain ⟨negative, scale, fraction, _, _⟩ := x
  simp only at h
  split at h
  · rename_i hscale
    subst hscale
    subst h
    rfl
  · omega

/-- **A double is written as a numeral for it.** -/
theorem isNumeral_real (x : Binary64) : IsNumeral x.text (.real x) := by
  have hread : ∀ (s : List Char) (v : Rat), Numeral.Spells x.negative s v →
      (∀ (digits : Nat) (e : Int), (digits * 10 ^ e : Rat) = v →
      Binary64.ofDecimal? x.negative digits e = some x) →
      IsNumeral ((if x.negative then ['-'] else []) ++ s) (.real x) := by
    rintro s v ⟨n, hneg, hreal, hv, htext⟩ hof
    refine ⟨n, htext, ?_⟩
    have hnot : (n.fraction.isNone && n.power?.isNone) = false := by
      rcases hreal with hf | he
      · rw [Option.isNone_eq_false_iff.2 hf, Bool.false_and]
      · have : n.power?.isSome := by rw [Numeral.power?, Option.isSome_map, he]
        rw [Option.isNone_eq_false_iff.2 this, Bool.and_false]
    rw [Numeral.value?, number?]
    simp only [hnot, Bool.false_and, Bool.false_eq_true, if_false]
    rw [hneg]
    show ((Binary64.ofDecimal? x.negative n.digits n.shift).map Value.real) = _
    rw [hof n.digits n.shift hv]
    rfl
  unfold Binary64.text
  simp only
  split
  · rename_i hzero
    refine hread ('0' :: documentLayout.wholeSuffix) 0 ?_ ?_
    · have hdigit : ∀ c ∈ ['0'], c.isDigit := List.forall_mem_singleton.2 (by decide)
      have := Numeral.spells_positional x.negative hdigit (.inl rfl) (by decide) hdigit
      rwa [show digitsValue (['0'] ++ ['0']) = 0 from rfl, Nat.cast_zero, zero_mul] at this
    · intro digits e hv
      have hdigits : digits = 0 := by
        have : (digits : Rat) = 0 := by
          rcases mul_eq_zero.1 hv with h | h
          · exact h
          · exact absurd h (by positivity)
        exact_mod_cast this
      rw [hdigits, Binary64.ofDecimal?, if_pos rfl]
      exact congrArg some (Binary64.eq_zero hzero).symm
  · rename_i hx
    refine hread _ x.shortest.value (Numeral.spells_decimal x.negative ?_) ?_
    · intro hzero
      have := Binary64.pos_of_nearest hx (Binary64.shortest_nearest hx)
      rw [Decimal.value, hzero, Nat.cast_zero, zero_mul] at this
      exact absurd this (not_le.2 (by positivity))
    · intro digits e hv
      exact Binary64.ofDecimal?_of_nearest hx (hv ▸ Binary64.shortest_nearest hx)

end ErrorReport.Json
