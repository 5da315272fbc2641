import ErrorReport.Json.Printer
import ErrorReport.Json.Reader

/-!
# Reading strings back

The printer has three kinds of characters: those with a short escape, the other control characters,
and those that stand for themselves.  Each is read as itself whatever follows
(`string?_escapedChar`), so a string is read up to its own closing quote.
-/

set_option autoImplicit false

namespace ErrorReport.Json.Reader

/-- A character that needs no escape is taken as it is. -/
theorem string?_cons_plain {c : Char} (rest : List Char) (hquote : c ≠ '"') (hslash : c ≠ '\\')
    (hcontrol : ¬c.toNat < 0x20) :
    string? (c :: rest) = (string? rest).map fun p => (c :: p.1, p.2) := by
  rw [string?.eq_def]
  split
  · rename_i h; exact absurd h (by simp)
  · rename_i h; simp only [List.cons.injEq] at h; exact absurd h.1 hquote
  · rename_i h; simp only [List.cons.injEq] at h; exact absurd h.1 hslash
  · rename_i h; simp only [List.cons.injEq] at h; exact absurd h.1 hslash
  · rename_i h
    simp only [List.cons.injEq] at h
    obtain ⟨rfl, rfl⟩ := h
    rw [if_neg hcontrol]
    cases string? rest <;> rfl

/-- A control character in four digits. -/
theorem unit?_digit {n : Nat} (h : n < 0x20) :
    unit? '0' '0' (Text.Hex.digit (n / 16)) (Text.Hex.digit (n % 16)) = some n := by
  have hzero : Text.Hex.value? '0' = some 0 := by decide
  rw [unit?, hzero, Text.Hex.value?_digit _ (by omega), Text.Hex.value?_digit _ (by omega)]
  show some (((0 * 16 + 0) * 16 + n / 16) * 16 + n % 16) = some n
  congr 1
  omega

/-- A short escape is taken for its character. -/
theorem string?_short {e c : Char} (rest : List Char) (hu : e ≠ 'u')
    (he : shortEscape? e = some c) :
    string? ('\\' :: e :: rest) = (string? rest).map fun p => (c :: p.1, p.2) := by
  rw [string?.eq_def]
  split
  · rename_i h; exact absurd h (by simp)
  · rename_i h; exact absurd h (by simp)
  · rename_i h; simp only [List.cons.injEq] at h; exact absurd h.2.1 hu
  · rename_i h
    simp only [List.cons.injEq] at h
    obtain ⟨-, rfl, rfl⟩ := h
    rw [he]
    cases string? rest <;> rfl
  · rename_i h1 h
    simp only [List.cons.injEq] at h
    exact absurd h.2.symm (h1 _ _ h.1.symm)

/-- A character is written with a short escape, with four digits, or as it is. -/
theorem escapedChar_cases (c : Char) :
    (∃ e, escapedChar c = ['\\', e] ∧ e ≠ 'u' ∧ shortEscape? e = some c) ∨
      (c.toNat < 0x20 ∧ escapedChar c =
        ['\\', 'u', '0', '0', Text.Hex.digit (c.toNat / 16), Text.Hex.digit (c.toNat % 16)]) ∨
      (escapedChar c = [c] ∧ c ≠ '"' ∧ c ≠ '\\' ∧ ¬c.toNat < 0x20) := by
  by_cases hshort : c ∈ ['"', '\\', '\x08', '\t', '\n', '\x0c', '\r']
  · left
    revert c
    simp only [List.forall_mem_cons, List.not_mem_nil, false_implies, implies_true, and_true]
    exact ⟨⟨'"', by decide⟩, ⟨'\\', by decide⟩, ⟨'b', by decide⟩, ⟨'t', by decide⟩,
      ⟨'n', by decide⟩, ⟨'f', by decide⟩, ⟨'r', by decide⟩⟩
  · right
    simp only [List.mem_cons, List.not_mem_nil, or_false, not_or, ← beq_eq_false_iff_ne] at hshort
    obtain ⟨hquote, hslash, hback, htab, hline, hpage, hreturn⟩ := hshort
    simp only [escapedChar, hquote, hslash, hback, htab, hline, hpage, hreturn, Bool.false_eq_true,
      if_false]
    by_cases hcontrol : c.toNat < 0x20
    · exact .inl ⟨hcontrol, if_pos hcontrol⟩
    · exact .inr ⟨if_neg hcontrol, ne_of_beq_false hquote, ne_of_beq_false hslash, hcontrol⟩

/-- The written form of a character is read back, whatever follows it. -/
theorem string?_escapedChar (c : Char) (rest : List Char) :
    string? (escapedChar c ++ rest) = (string? rest).map fun p => (c :: p.1, p.2) := by
  obtain ⟨e, hwritten, hu, hshort⟩ | ⟨hcontrol, hwritten⟩ | ⟨hwritten, hquote, hslash, hplain⟩ :=
    escapedChar_cases c
  · rw [hwritten]
    exact string?_short rest hu hshort
  · rw [hwritten]
    simp only [List.cons_append, List.nil_append]
    rw [string?, unit?_digit hcontrol]
    show (if 0xD800 ≤ c.toNat ∧ c.toNat < 0xDC00 then _ else _) = _
    rw [if_neg (by omega), if_neg (by omega), Char.ofNat_toNat]
    cases string? rest <;> rfl
  · rw [hwritten]
    exact string?_cons_plain rest hquote hslash hplain

/-- **The characters of a written string are its own.** -/
theorem string?_escaped (s rest : List Char) :
    string? (s.flatMap escapedChar ++ '"' :: rest) = some (s, rest) := by
  induction s with
  | nil => rfl
  | cons c s ih =>
    rw [List.flatMap_cons, List.append_assoc, string?_escapedChar, ih]
    rfl

end ErrorReport.Json.Reader
