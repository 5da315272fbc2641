import ErrorReport.Proofs.Text.Ascii
import Mathlib.Algebra.Group.Nat.Defs

/-!
# Decimal digits

Several readers add up decimal digits from the left; on the digits of a number they come back to it.
Digits of one length are ordered as texts like the numbers that they stand for (`decimal_lt_decimal`).
-/

set_option autoImplicit false

namespace ErrorReport.Text

/-- The sum that a reader makes of decimal digits. -/
theorem decimal_foldl (s : List Char) :
    s.foldl (fun n c => n * 10 + (c.toNat - 48)) 0 = Nat.ofDigitChars 10 s 0 := by
  rw [Nat.ofDigitChars]
  congr 1
  funext n c
  rw [Nat.mul_comm]
  rfl

/-- **The digits of a number are read as the number.** -/
theorem decimal_toDigits (n : Nat) :
    (Nat.toDigits 10 n).foldl (fun n c => n * 10 + (c.toNat - 48)) 0 = n := by
  rw [decimal_foldl, Nat.ofDigitChars_ten_toDigits]

theorem isDigit_of_mem_decimal {n : Nat} {c : Char} (h : c ∈ Nat.toDigits 10 n) :
    c.isDigit = true :=
  Nat.isDigit_of_mem_toDigits (by decide) (by decide) h

/-- A whole number is written with digits and the sign. -/
theorem mem_toString_int {n : Int} {c : Char} (h : c ∈ (toString n).toList) :
    c = '-' ∨ c.isDigit = true := by
  cases n with
  | ofNat n =>
    refine .inr (isDigit_of_mem_decimal (n := n) ?_)
    rw [← Nat.toList_repr]
    exact h
  | negSucc n =>
    have hdigits : (toString (Int.negSucc n)).toList = '-' :: Nat.toDigits 10 (n + 1) := by
      rw [← Nat.toList_repr]
      exact String.toList_append
    rw [hdigits, List.mem_cons] at h
    exact h.imp_right isDigit_of_mem_decimal

/-- Only zero is written with a zero in front. -/
theorem head?_toDigits {n : Nat} (hn : n ≠ 0) : (Nat.toDigits 10 n).head? ≠ some '0' := by
  induction n using Nat.strongRecOn with
  | ind n ih =>
    by_cases hlt : n < 10
    · rw [Nat.toDigits_of_lt_base hlt]
      have : ∀ m : Fin 10, m.val ≠ 0 → [m.val.digitChar].head? ≠ some '0' := by decide
      exact this ⟨n, hlt⟩ hn
    · rw [Nat.toDigits_of_base_le (by decide) (by omega), List.head?_append]
      have := ih (n / 10) (by omega) (by omega)
      obtain ⟨c, s, hs⟩ := List.exists_cons_of_ne_nil (Nat.toDigits_ne_nil (n := n / 10) (b := 10))
      rw [hs] at this ⊢
      exact this

/-! ## Digits of one length -/

variable {s t : List Char}

theorem decimal_cons (c : Char) (s : List Char) : Nat.ofDigitChars 10 (c :: s) 0 =
    10 ^ s.length * (c.toNat - 48) + Nat.ofDigitChars 10 s 0 := by
  rw [Nat.ofDigitChars_cons, Nat.ofDigitChars_eq_ofDigitChars_zero, Nat.mul_zero, Nat.zero_add]
  rfl

/-- What so many digits stand for has no more of them. -/
theorem decimal_lt (hs : ∀ c ∈ s, c.isDigit = true) : Nat.ofDigitChars 10 s 0 < 10 ^ s.length := by
  induction s with
  | nil => decide
  | cons c s ih =>
    have hdigit := (isDigit_iff c).1 (hs c List.mem_cons_self)
    have hrest := ih fun d hd => hs d (List.mem_cons_of_mem _ hd)
    have hlead : 10 ^ s.length * (c.toNat - 48) ≤ 10 ^ s.length * 9 :=
      Nat.mul_le_mul_left _ (by omega)
    rw [decimal_cons, List.length_cons, Nat.pow_succ]
    omega

/-- **Digits of one length are ordered like their numbers.** -/
theorem decimal_lt_decimal (hs : ∀ c ∈ s, c.isDigit = true) (ht : ∀ c ∈ t, c.isDigit = true)
    (hlength : s.length = t.length) (h : s < t) :
    Nat.ofDigitChars 10 s 0 < Nat.ofDigitChars 10 t 0 := by
  induction s generalizing t with
  | nil =>
    obtain rfl := List.eq_nil_of_length_eq_zero hlength.symm
    exact absurd h (List.not_lt_nil _)
  | cons c s ih =>
    obtain ⟨d, t, rfl⟩ := List.exists_cons_of_length_eq_add_one hlength.symm
    have hrest := Nat.succ.inj hlength
    have hs' : ∀ c ∈ s, c.isDigit = true := fun e he => hs e (List.mem_cons_of_mem _ he)
    have ht' : ∀ c ∈ t, c.isDigit = true := fun e he => ht e (List.mem_cons_of_mem _ he)
    rw [decimal_cons, decimal_cons, hrest]
    rcases List.cons_lt_cons_iff.1 h with hlt | ⟨rfl, hlt⟩
    · have hc := (isDigit_iff c).1 (hs c List.mem_cons_self)
      have hcd : c.toNat < d.toNat := UInt32.lt_iff_toNat_lt.1 hlt
      have hvalue : Nat.ofDigitChars 10 s 0 < 10 ^ t.length := hrest ▸ decimal_lt hs'
      have hlead : 10 ^ t.length * (c.toNat - 48 + 1) ≤ 10 ^ t.length * (d.toNat - 48) :=
        Nat.mul_le_mul_left _ (by omega)
      rw [Nat.mul_succ] at hlead
      omega
    · exact Nat.add_lt_add_left (ih hs' ht' hrest hlt) _

end ErrorReport.Text
