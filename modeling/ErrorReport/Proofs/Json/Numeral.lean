import ErrorReport.Json.Printer
import ErrorReport.Json.Reader
import ErrorReport.Proofs.Text.Decimal
import ErrorReport.Proofs.Text.Trim
import Mathlib.Algebra.Group.Int.Defs
import Mathlib.Algebra.Group.Nat.Defs
import Mathlib.Data.List.Basic

/-!
# Reading numbers back

A `Numeral` is a number as a document spells it: a sign, digits, perhaps a point with digits and
perhaps an exponent.  `numberAt?_text` reads any numeral, provided that nothing follows which a
number could take for its own (`Stops`).

What the printer writes for an integer is such a numeral, `isNumeral_integer`.
-/

set_option autoImplicit false

namespace ErrorReport.Json

open Reader

/-! ## Runs of digits -/

theorem digitsValue_eq (s : List Char) : digitsValue s = Nat.ofDigitChars 10 s 0 :=
  Text.decimal_foldl s

theorem digitsValue_toDigits (n : Nat) : digitsValue (Nat.toDigits 10 n) = n :=
  Text.decimal_toDigits n

theorem digitsValue_append_zeros (s : List Char) (count : Nat) :
    digitsValue (s ++ List.replicate count '0') = digitsValue s * 10 ^ count := by
  rw [digitsValue_eq, digitsValue_eq, Nat.ofDigitChars_append, Nat.ofDigitChars_replicate_zero,
    Nat.mul_comm]

theorem digitsValue_zeros_append (count : Nat) (s : List Char) :
    digitsValue (List.replicate count '0' ++ s) = digitsValue s := by
  rw [digitsValue_eq, digitsValue_eq, Nat.ofDigitChars_append, Nat.ofDigitChars_replicate_zero,
    Nat.mul_zero]

theorem digits?_append {s rest : List Char} (hne : s ≠ []) (hs : ∀ c ∈ s, c.isDigit)
    (hrest : ∀ c ∈ rest.head?, ¬c.isDigit) : digits? (s ++ rest) = some (s, rest) := by
  have hneg : ∀ c ∈ rest.head?, c.isDigit = false := fun c hc => Bool.eq_false_iff.2 (hrest c hc)
  rw [digits?, Text.takeWhile_append_of_all hs hneg, Text.dropWhile_append_of_all hs hneg,
    if_neg (by simpa using hne)]

/-! ## Numerals -/

/-- A number as it is spelled. -/
structure Numeral where
  negative : Bool
  /-- The digits before the point. -/
  whole : List Char
  /-- The digits after the point, if there is one. -/
  fraction : Option (List Char)
  /-- The sign and the digits of the exponent, if there is one. -/
  exponent : Option (Bool × List Char)
  whole_digits : ∀ c ∈ whole, c.isDigit
  whole_start : whole = ['0'] ∨ whole ≠ [] ∧ whole.head? ≠ some '0'
  fraction_digits : ∀ f ∈ fraction, f ≠ [] ∧ ∀ c ∈ f, c.isDigit
  exponent_digits : ∀ e ∈ exponent, e.2 ≠ [] ∧ ∀ c ∈ e.2, c.isDigit

namespace Numeral

/-- The part of the text after the digits in front of the point. -/
def fractionText (n : Numeral) : List Char :=
  match n.fraction with
  | some digits => '.' :: digits
  | none => []

/-- The end of the text. -/
def exponentText (n : Numeral) : List Char :=
  match n.exponent with
  | some (isNegative, digits) => 'e' :: (if isNegative then '-' else '+') :: digits
  | none => []

/-- The sign as it is written. -/
def signText (n : Numeral) : List Char := if n.negative then ['-'] else []

/-- The text of a numeral. -/
def text (n : Numeral) : List Char := n.signText ++ n.whole ++ n.fractionText ++ n.exponentText

/-- All digits as one number. -/
def digits (n : Numeral) : Nat := digitsValue (n.whole ++ n.fraction.getD [])

/-- The exponent as a number. -/
def power? (n : Numeral) : Option Int :=
  n.exponent.map fun e => if e.1 then -(digitsValue e.2 : Int) else digitsValue e.2

/-- The power of ten that goes with the digits. -/
def shift (n : Numeral) : Int := n.power?.getD 0 - (n.fraction.getD []).length

end Numeral

/-- What may follow a number. -/
def Stops (rest : List Char) : Prop :=
  ∀ c ∈ rest.head?, ¬c.isDigit ∧ c ≠ '.' ∧ c ≠ 'e' ∧ c ≠ 'E'

namespace Numeral

variable {rest : List Char}

theorem exponent?_text (n : Numeral) (h : Stops rest) :
    exponent? (n.exponentText ++ rest) = some (n.power?, rest) := by
  have hrest : ∀ c ∈ rest.head?, ¬c.isDigit := fun c hc => (h c hc).1
  rw [exponentText, power?]
  cases he : n.exponent with
  | none =>
    rw [List.nil_append]
    unfold exponent?
    split
    · exact absurd rfl (h _ rfl).2.2.1
    · exact absurd rfl (h _ rfl).2.2.2
    · rfl
  | some e =>
    obtain ⟨isNegative, digits⟩ := e
    obtain ⟨hne, hdigits⟩ := n.exponent_digits _ he
    cases isNegative with
    | false =>
      show ((digits? (digits ++ rest)).map fun d => _) = _
      rw [digits?_append hne hdigits hrest]
      rfl
    | true =>
      show ((digits? (digits ++ rest)).map fun d => _) = _
      rw [digits?_append hne hdigits hrest]
      rfl

theorem head?_exponentText (n : Numeral) (h : Stops rest) :
    ∀ c ∈ (n.exponentText ++ rest).head?, ¬c.isDigit ∧ c ≠ '.' := by
  rw [exponentText]
  intro c hc
  split at hc
  · obtain rfl := Option.some.inj hc
    decide
  · exact ⟨(h c hc).1, (h c hc).2.1⟩

theorem fraction?_text (n : Numeral) (h : Stops rest) :
    fraction? (n.fractionText ++ (n.exponentText ++ rest)) =
      some (n.fraction, n.exponentText ++ rest) := by
  have hnext := n.head?_exponentText h
  rw [fractionText]
  cases hf : n.fraction with
  | none =>
    rw [List.nil_append]
    unfold fraction?
    split
    · rename_i heq
      rw [heq] at hnext
      exact absurd rfl (hnext _ rfl).2
    · rfl
  | some digits =>
    obtain ⟨hne, hdigits⟩ := n.fraction_digits _ hf
    show ((digits? (digits ++ (n.exponentText ++ rest))).map fun d => _) = _
    rw [digits?_append hne hdigits fun c hc => (hnext c hc).1]
    rfl

theorem whole?_text (n : Numeral) (h : Stops rest) :
    whole? (n.whole ++ (n.fractionText ++ (n.exponentText ++ rest))) =
      some (n.whole, n.fractionText ++ (n.exponentText ++ rest)) := by
  have hnext : ∀ c ∈ (n.fractionText ++ (n.exponentText ++ rest)).head?, ¬c.isDigit := by
    rw [fractionText]
    intro c hc
    split at hc
    · obtain rfl := Option.some.inj hc
      decide
    · exact (n.head?_exponentText h c hc).1
  rcases n.whole_start with hzero | ⟨hne, hstart⟩
  · rw [hzero]
    rfl
  · unfold whole?
    split
    · rename_i heq
      have hhead := congrArg List.head? heq
      rw [List.head?_append_of_ne_nil _ hne] at hhead
      exact absurd hhead hstart
    · exact digits?_append hne n.whole_digits hnext

/-- Whether a minus is in front, and what follows it. -/
def splitSign : List Char → Bool × List Char
  | '-' :: rest => (true, rest)
  | s => (false, s)

theorem numberAt?_eq (s : List Char) :
    numberAt? s = (whole? (splitSign s).2).bind fun whole =>
      (fraction? whole.2).bind fun fraction =>
        (exponent? fraction.2).bind fun exponent =>
          (number? (splitSign s).1 whole.1 fraction.1 exponent.1).bind fun v =>
            some (v, exponent.2) := rfl

theorem splitSign_text (n : Numeral) :
    splitSign (n.text ++ rest) =
      (n.negative, n.whole ++ (n.fractionText ++ (n.exponentText ++ rest))) := by
  rw [text, signText]
  rw [List.append_assoc, List.append_assoc, List.append_assoc]
  cases n.negative with
  | true => rfl
  | false =>
    show splitSign (n.whole ++ _) = _
    unfold splitSign
    split
    · rename_i heq
      have hne : n.whole ≠ [] := by
        rcases n.whole_start with hzero | ⟨hne, -⟩
        · rw [hzero]; decide
        · exact hne
      have hhead := congrArg List.head? heq
      rw [List.head?_append_of_ne_nil _ hne] at hhead
      exact absurd (n.whole_digits '-' (List.mem_of_mem_head? hhead)) (by decide)
    · rfl

/-- **A numeral is read as the number of its parts.** -/
theorem numberAt?_text (n : Numeral) (h : Stops rest) :
    numberAt? (n.text ++ rest) =
      (number? n.negative n.whole n.fraction n.power?).map fun v => (v, rest) := by
  rw [numberAt?_eq, splitSign_text, whole?_text n h, Option.bind_some, fraction?_text n h,
    Option.bind_some, exponent?_text n h, Option.bind_some]
  cases number? n.negative n.whole n.fraction n.power? <;> rfl

/-- What a numeral denotes, if the reader has a number for it. -/
def value? (n : Numeral) : Option Value := number? n.negative n.whole n.fraction n.power?

/-- A numeral starts with its sign or with a digit. -/
theorem exists_text_eq_cons (n : Numeral) : ∃ c s, n.text = c :: s ∧ (c = '-' ∨ c.isDigit) := by
  have hne : n.whole ≠ [] := by
    rcases n.whole_start with hzero | ⟨hne, -⟩
    · rw [hzero]; decide
    · exact hne
  obtain ⟨c, more, hwhole⟩ := List.exists_cons_of_ne_nil hne
  have hc : c.isDigit := n.whole_digits c (by rw [hwhole]; exact List.mem_cons_self)
  rw [text, signText]
  rw [hwhole]
  cases n.negative with
  | true => exact ⟨'-', _, rfl, .inl rfl⟩
  | false => exact ⟨c, _, rfl, .inr hc⟩

/-! ## Integers -/

/-- An integer as it is written. -/
def ofInt (n : Int) : Numeral where
  negative := n < 0
  whole := Nat.toDigits 10 n.natAbs
  fraction := none
  exponent := none
  whole_digits := fun _ hc => Text.isDigit_of_mem_decimal hc
  whole_start := by
    by_cases h : n.natAbs = 0
    · exact .inl (by rw [h]; rfl)
    · exact .inr ⟨Nat.toDigits_ne_nil, Text.head?_toDigits h⟩
  fraction_digits := by simp
  exponent_digits := by simp

theorem text_ofInt (n : Int) : (ofInt n).text = integerText n := by
  rw [integerText, text, signText, ofInt, fractionText, exponentText]
  split <;> simp_all

end Numeral

/-- Whether a text is a numeral for a value. -/
def IsNumeral (s : List Char) (v : Value) : Prop := ∃ n : Numeral, n.text = s ∧ n.value? = some v

/-- **An integer of 64 bits is written as a numeral for it.** -/
theorem isNumeral_integer {n : Int} (hlow : -2 ^ 63 ≤ n) (hhigh : n < 2 ^ 64) :
    IsNumeral (integerText n) (.integer n) := by
  refine ⟨Numeral.ofInt n, Numeral.text_ofInt n, ?_⟩
  have hdigits : digitsValue (Nat.toDigits 10 n.natAbs ++ (none : Option (List Char)).getD []) =
      n.natAbs := by
    rw [Option.getD_none, List.append_nil, digitsValue_toDigits]
  have hsigned : (if (decide (n < 0)) = true then -(n.natAbs : Int) else n.natAbs) = n := by
    split
    · rename_i hneg; rw [decide_eq_true_eq] at hneg; omega
    · rename_i hneg; rw [decide_eq_true_eq] at hneg; omega
  show number? (decide (n < 0)) (Nat.toDigits 10 n.natAbs) none none = _
  rw [number?]
  simp only [hdigits, hsigned]
  rw [if_pos]
  simp only [Option.isNone_none, Bool.true_and, Bool.and_eq_true, Bool.not_eq_true',
    Bool.and_eq_false_imp, decide_eq_true_eq, beq_eq_false_iff_ne]
  refine ⟨⟨hlow, hhigh⟩, ?_⟩
  omega

end ErrorReport.Json
