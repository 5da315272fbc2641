import ErrorReport.Text.Ascii

/-!
# Letters, digits and lower case

A letter or digit is nothing that separates parts of a text (`ne_of_isAlphanum`), is printable
(`toNat_of_isAlphanum`), and stays a letter or digit in lower case.  Folding a text twice folds it
once (`map_toLower_toLower`).
-/

set_option autoImplicit false

namespace ErrorReport.Text

theorem ne_of_isAlphanum {c d : Char} (hc : c.isAlphanum = true) (hd : d.isAlphanum = false) :
    c ≠ d := by
  rintro rfl
  rw [hc] at hd
  exact absurd hd (by decide)

theorem isUpper_iff (c : Char) : c.isUpper = true ↔ 65 ≤ c.toNat ∧ c.toNat ≤ 90 :=
  decide_eq_true_iff

theorem isLower_iff (c : Char) : c.isLower = true ↔ 97 ≤ c.toNat ∧ c.toNat ≤ 122 := by
  show (decide (97 ≤ c.toNat) && decide (c.toNat ≤ 122)) = true ↔ _
  rw [Bool.and_eq_true, decide_eq_true_eq, decide_eq_true_eq]

theorem isDigit_iff (c : Char) : c.isDigit = true ↔ 48 ≤ c.toNat ∧ c.toNat ≤ 57 :=
  Char.isDigit_iff_toNat

theorem isAlphanum_iff (c : Char) :
    c.isAlphanum = true ↔ c.isUpper = true ∨ c.isLower = true ∨ c.isDigit = true := by
  show (c.isUpper || c.isLower || c.isDigit) = true ↔ _
  rw [Bool.or_eq_true, Bool.or_eq_true, or_assoc]

theorem isAlphanum_of_isLower {c : Char} (h : c.isLower = true) : c.isAlphanum = true :=
  (isAlphanum_iff c).2 (.inr (.inl h))

theorem isAlphanum_of_isDigit {c : Char} (h : c.isDigit = true) : c.isAlphanum = true :=
  (isAlphanum_iff c).2 (.inr (.inr h))

theorem toNat_of_isAlphanum {c : Char} (h : c.isAlphanum = true) :
    0x30 ≤ c.toNat ∧ c.toNat < 0x7B := by
  rw [isAlphanum_iff, isUpper_iff, isLower_iff, isDigit_iff] at h
  omega

theorem toLower_of_not_isUpper {c : Char} (h : c.isUpper = false) : c.toLower = c := by
  rw [Bool.eq_false_iff, Ne, isUpper_iff] at h
  exact dif_neg h

theorem not_isUpper_of_isLower {c : Char} (h : c.isLower = true) : c.isUpper = false := by
  rw [isLower_iff] at h
  rw [Bool.eq_false_iff, Ne, isUpper_iff]
  omega

theorem not_isUpper_of_isDigit {c : Char} (h : c.isDigit = true) : c.isUpper = false := by
  rw [isDigit_iff] at h
  rw [Bool.eq_false_iff, Ne, isUpper_iff]
  omega

theorem not_isDigit_of_isLower {c : Char} (h : c.isLower = true) : c.isDigit = false := by
  rw [isLower_iff] at h
  rw [Bool.eq_false_iff, Ne, isDigit_iff]
  omega

/-- A capital becomes a small letter. -/
theorem isLower_toLower {c : Char} (h : c.isUpper = true) : c.toLower.isLower = true := by
  have hall : ∀ n : Fin 128, (Char.ofNat n).isUpper = true →
      (Char.ofNat n).toLower.isLower = true := by decide
  have hbound := (isUpper_iff c).1 h
  have hc := hall ⟨c.toNat, by omega⟩
  simp only [Char.ofNat_toNat] at hc
  exact hc h

/-- Lower case changes capitals only, and makes small letters of them. -/
theorem toLower_cases (c : Char) :
    c.toLower = c ∨ c.isAlphanum = true ∧ c.toLower.isAlphanum = true := by
  by_cases h : c.isUpper = true
  · exact .inr ⟨(isAlphanum_iff c).2 (.inl h), isAlphanum_of_isLower (isLower_toLower h)⟩
  · exact .inl (toLower_of_not_isUpper (Bool.eq_false_iff.2 h))

theorem not_isUpper_toLower (c : Char) : c.toLower.isUpper = false := by
  by_cases h : c.isUpper = true
  · exact not_isUpper_of_isLower (isLower_toLower h)
  · rw [toLower_of_not_isUpper (Bool.eq_false_iff.2 h)]
    exact Bool.eq_false_iff.2 h

theorem toLower_toLower (c : Char) : c.toLower.toLower = c.toLower :=
  toLower_of_not_isUpper (not_isUpper_toLower c)

theorem isAlphanum_toLower (c : Char) : c.toLower.isAlphanum = c.isAlphanum := by
  rcases toLower_cases c with h | ⟨h, h'⟩
  · rw [h]
  · rw [h, h']

theorem map_toLower_toLower (s : List Char) :
    (s.map Char.toLower).map Char.toLower = s.map Char.toLower := by
  rw [List.map_map]
  exact List.map_congr_left fun c _ => toLower_toLower c

end ErrorReport.Text
