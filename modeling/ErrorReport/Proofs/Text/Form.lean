import ErrorReport.Text.Form
import ErrorReport.Proofs.Text.Ascii
import ErrorReport.Proofs.Text.Percent
import ErrorReport.Proofs.Text.Split

/-!
# Forms, there and back

`read_write`: the pairs of a written form are those it was written from, in their order.  Once its
plus signs are blanks again, a written name is an escaped text like any other (`map_encode`), and
neither `=` nor `&` nor `#` is among its characters (`mem_encode`).
-/

set_option autoImplicit false

namespace ErrorReport.Text.Form

/-- The blank that a plus sign stands for. -/
def unplus (c : Char) : Char := if c == '+' then ' ' else c

/-- What is escaped in a form. -/
def isReserved (c : Char) : Bool := !isKept c && c != ' '

theorem isKept_bounds {c : Char} (h : isKept c = true) : 0x20 < c.toNat ∧ c.toNat < 0x7F := by
  simp only [isKept, Bool.or_eq_true, beq_iff_eq] at h
  rcases h with (((h | rfl) | rfl) | rfl) | rfl
  · have := toNat_of_isAlphanum h
    omega
  all_goals decide

theorem unplus_of_ne {c : Char} (h : c ≠ '+') : unplus c = c := by
  have : (c == '+') = false := by simpa using h
  rw [unplus, this]
  rfl

theorem map_unplus {s : List Char} (h : '+' ∉ s) : s.map unplus = s := by
  induction s with
  | nil => rfl
  | cons c s ih =>
    rw [List.mem_cons, not_or] at h
    rw [List.map_cons, ih h.2, unplus_of_ne fun heq => h.1 heq.symm]

/-- One character, up to the plus sign for a blank. -/
theorem map_encodeChar (c : Char) :
    (encodeChar c).map unplus = Percent.encodeChar isReserved c := by
  rw [encodeChar, Percent.encodeChar]
  by_cases hblank : c = ' '
  · subst hblank
    rfl
  · have hb : (c == ' ') = false := by simpa using hblank
    rw [hb]
    simp only [Bool.false_eq_true, if_false]
    by_cases hkept : isKept c = true
    · obtain ⟨hlow, hhigh⟩ := isKept_bounds hkept
      have hplus : c ≠ '+' := by
        rintro rfl
        exact absurd hkept (by decide)
      have hnot : (Percent.isUnprintable c || isReserved c) = false := by
        simp only [Percent.isUnprintable, isReserved, hkept, Bool.not_true, Bool.false_and,
          Bool.or_false, Bool.or_eq_false_iff, decide_eq_false_iff_not]
        omega
      rw [if_pos hkept, hnot, List.map_singleton, unplus_of_ne hplus]
      rfl
    · have hescaped : (Percent.isUnprintable c || isReserved c) = true := by
        have hkept' : isKept c = false := by simpa using hkept
        simp [isReserved, hkept', hblank]
      rw [if_neg hkept, if_pos hescaped]
      refine map_unplus fun hmem => ?_
      obtain ⟨b, -, hb⟩ := List.mem_flatMap.1 hmem
      exact absurd (Percent.mem_escape hb).1 (by decide)

theorem map_encode (s : List Char) : (encode s).map unplus = Percent.encode isReserved s := by
  rw [encode, List.map_flatMap, Percent.encode]
  congr 1
  funext c
  exact map_encodeChar c

/-- **A name or a value is read back.** -/
theorem decode_encode (s : List Char) : decode (encode s) = s := by
  show Percent.decodeText ((encode s).map unplus) = s
  rw [map_encode]
  exact Percent.decodeText_encode (by decide) s

/-- The characters of a written name or value. -/
theorem mem_encode {s : List Char} {c : Char} (h : c ∈ encode s) :
    c = '+' ∨ c = '%' ∨ isKept c = true := by
  obtain ⟨d, -, hc⟩ := List.mem_flatMap.1 h
  rw [encodeChar] at hc
  split at hc
  · exact .inl (List.mem_singleton.1 hc)
  · split at hc
    · rename_i hkept
      rw [List.mem_singleton.1 hc]
      exact .inr (.inr hkept)
    · obtain ⟨b, -, hb⟩ := List.mem_flatMap.1 hc
      rcases (Percent.mem_escape hb).1 with rfl | halnum
      · exact .inr (.inl rfl)
      · exact .inr (.inr (by rw [isKept, halnum]; rfl))

theorem not_mem_encode {c : Char} (hc : c ≠ '+' ∧ c ≠ '%' ∧ isKept c = false) (s : List Char) :
    c ∉ encode s := by
  intro hmem
  rcases mem_encode hmem with h | h | h
  · exact hc.1 h
  · exact hc.2.1 h
  · rw [hc.2.2] at h
    exact absurd h (by decide)

theorem readPair_writePair (pair : String × String) : readPair (writePair pair) = pair := by
  rw [readPair, writePair, splitOnce?_append_cons _ (not_mem_encode (by decide) _)]
  simp only
  rw [decode_encode, decode_encode, String.ofList_toList, String.ofList_toList]

/-- The characters of a written form. -/
theorem mem_write {pairs : List (String × String)} {c : Char} (h : c ∈ write pairs) :
    c = '&' ∨ c = '=' ∨ c = '+' ∨ c = '%' ∨ isKept c = true := by
  rcases mem_joinWith h with h | ⟨part, hpart, hc⟩
  · exact .inl (List.mem_singleton.1 h)
  · obtain ⟨pair, -, rfl⟩ := List.mem_map.1 hpart
    rw [writePair, List.mem_append, List.mem_cons] at hc
    rcases hc with hc | rfl | hc
    · exact .inr (.inr (mem_encode hc))
    · exact .inr (.inl rfl)
    · exact .inr (.inr (mem_encode hc))

theorem printable_write {pairs : List (String × String)} {c : Char} (h : c ∈ write pairs) :
    0x20 < c.toNat ∧ c.toNat < 0x7F := by
  rcases mem_write h with rfl | rfl | rfl | rfl | h
  · decide
  · decide
  · decide
  · decide
  · exact isKept_bounds h

/-- **A form is read back.** -/
theorem read_write (pairs : List (String × String)) : read (write pairs) = pairs := by
  by_cases hnil : pairs = []
  · rw [hnil]
    rfl
  · have hpieces : pieces (· == '&') (write pairs) = pairs.map writePair := by
      refine pieces_joinWith (by simpa using hnil) ?_ (by decide)
      intro part hpart c hc
      obtain ⟨pair, -, rfl⟩ := List.mem_map.1 hpart
      rw [writePair, List.mem_append, List.mem_cons] at hc
      have hne : c ≠ '&' := by
        rintro rfl
        rcases hc with hc | hc | hc
        · exact not_mem_encode (by decide) _ hc
        · exact absurd hc (by decide)
        · exact not_mem_encode (by decide) _ hc
      simpa using hne
    have hfilter : (pairs.map writePair).filter (fun p => !p.isEmpty) = pairs.map writePair := by
      rw [List.filter_eq_self]
      intro part hpart
      obtain ⟨pair, -, rfl⟩ := List.mem_map.1 hpart
      simp [writePair]
    rw [read, hpieces, hfilter, List.map_map]
    exact (List.map_congr_left fun pair _ => readPair_writePair pair).trans (List.map_id _)

end ErrorReport.Text.Form
