import ErrorReport.Url.Idna
import ErrorReport.Url.Ipv4
import ErrorReport.Proofs.Text.Ascii
import ErrorReport.Proofs.Text.Split

/-!
# Domain names in ASCII

What the conversion of a domain name comes to is free of the characters that no name may hold
(`Idna.not_isForbidden`), also where labels are written in Punycode, and a plain name in lower case
is its own ASCII form (`Idna.toAscii?_eq_self`).
-/

set_option autoImplicit false

namespace ErrorReport.Url

/-! ## The characters of Punycode -/

namespace Punycode

theorem mem_digits {bias place n : Nat} {c : Char} (h : c ∈ digits bias place n) :
    ∃ m < 36, c = digit m := by
  induction place, n using digits.induct bias with
  | case1 place n hlt =>
    rw [digits, if_pos hlt] at h
    refine ⟨n, ?_, List.mem_singleton.1 h⟩
    have := (threshold_bounds place bias).2
    omega
  | case2 place n hlt ih =>
    rw [digits, if_neg hlt] at h
    rcases List.mem_cons.1 h with rfl | h
    · refine ⟨_, ?_, rfl⟩
      have hbound := (threshold_bounds place bias).2
      have := Nat.mod_lt (n - threshold place bias) (show 0 < 36 - threshold place bias by omega)
      omega
    · exact ih h

/-- Passing a character writes digits only. -/
theorem mem_pass {basic code : Nat} {p : Progress} {d c : Char}
    (h : c ∈ (p.pass basic code d).text) :
    c ∈ p.text ∨ ∃ m < 36, c = digit m := by
  rw [Progress.pass] at h
  split at h
  · exact .inl h
  · split at h
    · exact (List.mem_append.1 h).imp_right mem_digits
    · exact .inl h

theorem mem_place {label : List Char} {basic code : Nat} {p : Progress × Nat} {c : Char}
    (h : c ∈ (Progress.place label basic p code).1.text) : c ∈ p.1.text ∨
      ∃ m < 36, c = digit m := by
  have hpasses : ∀ (s : List Char) (q : Progress), c ∈ (s.foldl (Progress.pass basic code) q).text →
      c ∈ q.text ∨ ∃ m < 36, c = digit m := by
    intro s
    induction s with
    | nil => exact fun q hq => .inl hq
    | cons d s ih =>
      intro q hq
      rcases ih _ hq with hq | hq
      · exact mem_pass hq
      · exact .inr hq
  exact hpasses label { p.1 with delta := p.1.delta + (code - p.2) * (p.1.placed + 1) } h

/-- A label is written with its own ASCII characters, a hyphen, and digits. -/
theorem mem_encode {label : List Char} {c : Char} (h : c ∈ encode label) :
    c ∈ label ∨ c = '-' ∨ ∃ m < 36, c = digit m := by
  have hplaces : ∀ (codes : List Nat) (p : Progress × Nat) (basic : Nat),
      c ∈ (codes.foldl (Progress.place label basic) p).1.text →
      c ∈ p.1.text ∨ ∃ m < 36, c = digit m := by
    intro codes
    induction codes with
    | nil => exact fun p basic hp => .inl hp
    | cons code codes ih =>
      intro p basic hp
      rcases ih _ basic hp with hp | hp
      · exact mem_place hp
      · exact .inr hp
  rcases List.mem_append.1 h with h | h
  · split at h
    · exact absurd h (by simp)
    · rcases List.mem_append.1 h with h | h
      · exact .inl (List.mem_filter.1 h).1
      · exact .inr (.inl (List.mem_singleton.1 h))
  · rcases hplaces _ _ _ h with h | h
    · exact absurd h (by simp)
    · exact .inr (.inr h)

end Punycode

/-! ## The characters of a name -/

namespace Idna

theorem not_isForbidden_digit {m : Nat} (h : m < 36) : isForbidden (Punycode.digit m) = false := by
  have : ∀ m : Fin 36, isForbidden (Punycode.digit m) = false := by decide
  exact this ⟨m, h⟩

theorem not_isForbidden_labelAscii {label : List Char} (h : ∀ c ∈ label, isForbidden c = false) :
    ∀ c ∈ labelAscii label, isForbidden c = false := by
  intro c hc
  rw [labelAscii] at hc
  split at hc
  · exact h c hc
  · rcases List.mem_append.1 hc with hc | hc
    · simp only [mark, List.mem_cons, List.not_mem_nil, or_false] at hc
      rcases hc with rfl | rfl | rfl | rfl <;> decide
    · rcases Punycode.mem_encode hc with hc | rfl | ⟨m, hm, rfl⟩
      · exact h c hc
      · decide
      · exact not_isForbidden_digit hm

theorem not_isForbidden_of_isAlphanum {c : Char} (h : c.isAlphanum = true) :
    isForbidden c = false := by
  have hbounds := Text.toNat_of_isAlphanum h
  rw [Bool.eq_false_iff]
  intro hc
  simp only [isForbidden, Bool.or_eq_true, decide_eq_true_eq, beq_iff_eq,
    List.contains_eq_mem] at hc
  rcases hc with (hc | hc) | hc
  · omega
  · omega
  · simp only [List.mem_cons, List.not_mem_nil, or_false] at hc
    rcases hc with rfl | rfl | rfl | rfl | rfl | rfl | rfl | rfl | rfl | rfl | rfl | rfl | rfl <;>
      exact absurd h (by decide)

/-- Lower case does not come upon a forbidden character. -/
theorem not_isForbidden_toLower {c : Char} (h : isForbidden c = false) :
    isForbidden c.toLower = false := by
  rcases Text.toLower_cases c with heq | ⟨-, halnum⟩
  · rwa [heq]
  · exact not_isForbidden_of_isAlphanum halnum

/-- **No ASCII form of a name holds a forbidden character.** -/
theorem not_isForbidden {name ascii : List Char} (h : toAscii? name = some ascii) :
    ∀ c ∈ ascii, isForbidden c = false := by
  rw [toAscii?] at h
  split at h
  · split at h
    · exact absurd h (by simp)
    · rename_i hany
      rw [← Option.some.inj h]
      intro c hc
      obtain ⟨d, hd, rfl⟩ := List.mem_map.1 hc
      exact not_isForbidden_toLower
        (Bool.eq_false_iff.2 (List.any_eq_false.1 (Bool.eq_false_iff.2 hany) d hd))
  · rw [fullAscii?] at h
    simp only [Option.bind_eq_bind, Option.bind_eq_some_iff] at h
    obtain ⟨mapped, -, texts, -, h⟩ := h
    split at h
    · exact absurd h (by simp)
    · split at h
      · exact absurd h (by simp)
      · rename_i hany
        rw [← Option.some.inj h]
        intro c hc
        rcases Text.mem_joinWith hc with hc | ⟨part, hpart, hc⟩
        · rw [List.mem_singleton.1 hc]
          decide
        · obtain ⟨label, hlabel, rfl⟩ := List.mem_map.1 hpart
          refine not_isForbidden_labelAscii (fun d hd => ?_) c hc
          have hnone := List.any_eq_false.1 (Bool.eq_false_iff.2 hany) label hlabel
          exact Bool.eq_false_iff.2 (List.any_eq_false.1 (Bool.eq_false_iff.2 hnone) d hd)

/-! ## Plain names -/

/-- A plain name in lower case without forbidden characters stays as it is. -/
theorem toAscii?_eq_self {name : List Char} (hplain : isPlain name = true)
    (hchars : ∀ c ∈ name, isForbidden c = false ∧ c.toLower = c) : toAscii? name = some name := by
  have hany : name.any isForbidden = false :=
    List.any_eq_false.2 fun c hc => by simp [(hchars c hc).1]
  have hlower : name.map Char.toLower = name := by
    refine (List.map_congr_left fun c hc => ?_).trans (List.map_id name)
    exact (hchars c hc).2
  rw [toAscii?, hplain, hany, hlower]
  rfl

/-- A name of letters, digits and dots has no label in Punycode, for want of a hyphen. -/
theorem isPlain_of_isAlphanum {name : List Char} (h : ∀ c ∈ name, c.isAlphanum = true ∨ c = '.') :
    isPlain name = true := by
  have hhyphen : '-' ∉ name := fun hmem => by
    rcases h _ hmem with h | h
    · exact absurd h (by decide)
    · exact absurd h (by decide)
  rw [isPlain, Bool.and_eq_true]
  constructor
  · refine List.all_eq_true.2 fun c hc => decide_eq_true ?_
    rcases h c hc with h | rfl
    · have := Text.toNat_of_isAlphanum h
      omega
    · decide
  · refine List.all_eq_true.2 fun label hlabel => ?_
    rw [Bool.not_eq_true', Bool.eq_false_iff, Ne, List.isPrefixOf_iff_prefix]
    intro hprefix
    have hmem : '-' ∈ label.map Char.toLower := hprefix.subset (by decide)
    obtain ⟨c, hc, hlower⟩ := List.mem_map.1 hmem
    rcases Text.toLower_cases c with heq | ⟨-, halnum⟩
    · rw [heq] at hlower
      exact hhyphen (hlower ▸ Text.mem_of_mem_pieces hlabel c hc)
    · rw [hlower] at halnum
      exact absurd halnum (by decide)

end Idna

end ErrorReport.Url
