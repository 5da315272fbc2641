import ErrorReport.Text.Utf8

/-!
# Reading back the bytes of a text

The bytes that `utf8` writes are well formed, so both readers give the text back: `decode?_utf8` and
`decodeLossy_utf8`.  Behind them is one fact about one character, `characters_append`, and behind
that the values of the bytes of a character as natural numbers.

The order of code points is the order of the bytes, which is `utf8_lt`.  No byte that starts a
character continues another one, so bytes can be cut where a character starts
(`Utf8.characters_append_of_starts`), and a word is in a text if its bytes are (`utf8_infix_iff`).
-/

set_option autoImplicit false

namespace ErrorReport.Text

namespace Utf8

/-! ## One byte -/

theorem tail?_ofNat {lo hi : UInt8} {n : Nat} {rest : List UInt8} (hn : n < 64)
    (hlo : lo.toNat ≤ n + 0x80) (hhi : n + 0x80 ≤ hi.toNat) :
    tail? lo hi (UInt8.ofNat (n + 0x80) :: rest) = some (n, rest) := by
  have hb : (UInt8.ofNat (n + 0x80)).toNat = n + 0x80 :=
    UInt8.toNat_ofNat_of_lt' (show n + 0x80 < 256 by omega)
  have hin :
      (decide (lo ≤ UInt8.ofNat (n + 0x80)) && decide (UInt8.ofNat (n + 0x80) ≤ hi)) = true := by
    simp only [UInt8.le_iff_toNat_le, hb, Bool.and_eq_true, decide_eq_true_eq]
    exact ⟨hlo, hhi⟩
  rw [tail?, if_pos hin, hb]
  have : (n + 0x80) % 64 = n := by omega
  rw [this]

theorem more_ofNat (value : Nat) {n : Nat} (count : Nat) (rest : List UInt8) (hn : n < 64) :
    more value (count + 1) (UInt8.ofNat (n + 0x80) :: rest) = more (value * 64 + n) count rest := by
  have hmax : (0xBF : UInt8).toNat = 0xBF := rfl
  have hmin : (0x80 : UInt8).toNat = 0x80 := rfl
  rw [more, tail?_ofNat hn (by omega) (by omega)]

theorem narrowed_ofNat {lo hi : UInt8} (value : Nat) {n : Nat} (count : Nat) (rest : List UInt8)
    (hn : n < 64) (hlo : lo.toNat ≤ n + 0x80) (hhi : n + 0x80 ≤ hi.toNat) :
    narrowed lo hi value count (UInt8.ofNat (n + 0x80) :: rest) =
      more (value * 64 + n) count rest := by
  rw [narrowed, tail?_ofNat hn hlo hhi]

/-- The first byte decides by its value alone. -/
theorem afterLead_ofNat {n : Nat} (hn : n < 256) (rest : List UInt8) :
    afterLead (UInt8.ofNat n) rest =
      if n < 0x80 then (some (Char.ofNat n), rest)
      else if n < 0xC2 then (none, rest)
      else if n < 0xE0 then more (n % 32) 1 rest
      else if n = 0xE0 then narrowed 0xA0 0xBF 0 1 rest
      else if n = 0xED then narrowed 0x80 0x9F 13 1 rest
      else if n < 0xF0 then more (n % 16) 2 rest
      else if n = 0xF0 then narrowed 0x90 0xBF 0 2 rest
      else if n < 0xF4 then more (n % 8) 3 rest
      else if n = 0xF4 then narrowed 0x80 0x8F 4 2 rest
      else (none, rest) := by
  have hb : (UInt8.ofNat n).toNat = n := UInt8.toNat_ofNat_of_lt' hn
  simp only [afterLead, UInt8.lt_iff_toNat_lt, beq_iff_eq, ← UInt8.toNat_inj, hb]
  rfl

/-! ## One character -/

theorem afterLead_oneByte {v : Nat} (h : v ≤ 0x7F) (rest : List UInt8) :
    afterLead (UInt8.ofNat v) rest = (some (Char.ofNat v), rest) := by
  rw [afterLead_ofNat (by omega), if_pos (by omega)]

theorem afterLead_twoBytes {v : Nat} (hlow : 0x7F < v) (hhigh : v ≤ 0x7FF) (rest : List UInt8) :
    afterLead (UInt8.ofNat (v / 64 % 32 + 0xC0)) (UInt8.ofNat (v % 64 + 0x80) :: rest) =
      (some (Char.ofNat v), rest) := by
  rw [afterLead_ofNat (by omega), if_neg (by omega), if_neg (by omega), if_pos (by omega),
    more_ofNat _ _ _ (by omega), more]
  rw [show (v / 64 % 32 + 192) % 32 * 64 + v % 64 = v by omega]

theorem afterLead_threeBytes {v : Nat} (hlow : 0x7FF < v) (hhigh : v ≤ 0xFFFF)
    (hvalid : v < 0xD800 ∨ 0xDFFF < v) (rest : List UInt8) :
    afterLead (UInt8.ofNat (v / 4096 % 16 + 0xE0))
        (UInt8.ofNat (v / 64 % 64 + 0x80) :: UInt8.ofNat (v % 64 + 0x80) :: rest) =
      (some (Char.ofNat v), rest) := by
  have hmax : (0xBF : UInt8).toNat = 0xBF := rfl
  rw [afterLead_ofNat (by omega), if_neg (by omega), if_neg (by omega), if_neg (by omega)]
  split
  · -- E0 leaves out what would fit two bytes
    have hmin : (0xA0 : UInt8).toNat = 0xA0 := rfl
    rw [narrowed_ofNat _ _ _ (by omega) (by omega) (by omega), more_ofNat _ _ _ (by omega), more]
    rw [show (0 * 64 + v / 64 % 64) * 64 + v % 64 = v by omega]
  · split
    · -- ED leaves out the surrogates
      have hmin : (0x80 : UInt8).toNat = 0x80 := rfl
      have hmax : (0x9F : UInt8).toNat = 0x9F := rfl
      rw [narrowed_ofNat _ _ _ (by omega) (by omega) (by omega), more_ofNat _ _ _ (by omega), more]
      rw [show (13 * 64 + v / 64 % 64) * 64 + v % 64 = v by omega]
    · rw [if_pos (by omega), more_ofNat _ _ _ (by omega), more_ofNat _ _ _ (by omega), more]
      rw [show ((v / 4096 % 16 + 224) % 16 * 64 + v / 64 % 64) * 64 + v % 64 = v by omega]

theorem afterLead_fourBytes {v : Nat} (hlow : 0xFFFF < v) (hhigh : v < 0x110000)
    (rest : List UInt8) :
    afterLead (UInt8.ofNat (v / 262144 % 8 + 0xF0))
        (UInt8.ofNat (v / 4096 % 64 + 0x80) :: UInt8.ofNat (v / 64 % 64 + 0x80) ::
          UInt8.ofNat (v % 64 + 0x80) :: rest) =
      (some (Char.ofNat v), rest) := by
  have hmax : (0xBF : UInt8).toNat = 0xBF := rfl
  rw [afterLead_ofNat (by omega), if_neg (by omega), if_neg (by omega), if_neg (by omega),
    if_neg (by omega), if_neg (by omega), if_neg (by omega)]
  split
  · -- F0 leaves out what would fit three bytes
    have hmin : (0x90 : UInt8).toNat = 0x90 := rfl
    rw [narrowed_ofNat _ _ _ (by omega) (by omega) (by omega), more_ofNat _ _ _ (by omega),
      more_ofNat _ _ _ (by omega), more]
    rw [show ((0 * 64 + v / 4096 % 64) * 64 + v / 64 % 64) * 64 + v % 64 = v by omega]
  · split
    · rw [more_ofNat _ _ _ (by omega), more_ofNat _ _ _ (by omega), more_ofNat _ _ _ (by omega),
        more]
      rw [show (((v / 262144 % 8 + 240) % 8 * 64 + v / 4096 % 64) * 64 + v / 64 % 64) * 64 +
        v % 64 = v by omega]
    · -- F4 ends with the last code point
      have hmin : (0x80 : UInt8).toNat = 0x80 := rfl
      have hmax : (0x8F : UInt8).toNat = 0x8F := rfl
      rw [if_pos (by omega), narrowed_ofNat _ _ _ (by omega) (by omega) (by omega),
        more_ofNat _ _ _ (by omega), more_ofNat _ _ _ (by omega), more]
      rw [show ((4 * 64 + v / 4096 % 64) * 64 + v / 64 % 64) * 64 + v % 64 = v by omega]

/-- The bytes of a character, read back. -/
theorem afterLead_utf8EncodeChar (c : Char) :
    ∃ b tail, String.utf8EncodeChar c = b :: tail ∧
      ∀ rest, afterLead b (tail ++ rest) = (some c, rest) := by
  have hvalid : c.toNat < 0xD800 ∨ 0xDFFF < c.toNat ∧ c.toNat < 0x110000 := c.valid
  have hc : Char.ofNat c.toNat = c := Char.ofNat_toNat c
  rw [String.utf8EncodeChar]
  simp only [Char.toNat_val]
  generalize c.toNat = v at hvalid hc
  subst hc
  split
  · exact ⟨_, _, rfl, afterLead_oneByte (by omega)⟩
  · split
    · exact ⟨_, _, rfl, afterLead_twoBytes (by omega) (by omega)⟩
    · split
      · exact ⟨_, _, rfl, afterLead_threeBytes (by omega) (by omega) (by omega)⟩
      · exact ⟨_, _, rfl, afterLead_fourBytes (by omega) (by omega)⟩

/-- A written character is read first, whatever follows it. -/
theorem characters_append (c : Char) (rest : List UInt8) :
    characters (String.utf8EncodeChar c ++ rest) = some c :: characters rest := by
  obtain ⟨b, tail, hbytes, hread⟩ := afterLead_utf8EncodeChar c
  rw [hbytes, List.cons_append, characters, hread]

/-- The characters of written text are its own, with whatever follows it read after them. -/
theorem characters_utf8_append (s : List Char) (rest : List UInt8) :
    characters (utf8 s ++ rest) = s.map some ++ characters rest := by
  induction s with
  | nil => rfl
  | cons c s ih =>
    rw [utf8, List.flatMap_cons, List.append_assoc, characters_append]
    show some c :: characters (utf8 s ++ rest) = _
    rw [ih]
    rfl

theorem characters_utf8 (s : List Char) : characters (utf8 s) = s.map some := by
  have h := characters_utf8_append s []
  rw [List.append_nil, characters, List.append_nil] at h
  exact h

end Utf8

/-! ## Whole texts -/

@[simp] theorem utf8_nil : utf8 [] = [] := rfl

@[simp] theorem utf8_cons (c : Char) (s : List Char) :
    utf8 (c :: s) = String.utf8EncodeChar c ++ utf8 s := rfl

/-- **The strict reader gives a written text back.** -/
theorem decode?_utf8 (s : List Char) : decode? (utf8 s) = some s := by
  rw [decode?, Utf8.characters_utf8]
  induction s with
  | nil => rfl
  | cons c s ih => rw [List.map_cons, List.mapM_cons, ih]; rfl

/-- **The lenient reader gives a written text back.** -/
theorem decodeLossy_utf8 (s : List Char) : decodeLossy (utf8 s) = s := by
  rw [decodeLossy, Utf8.characters_utf8, List.map_map]
  exact List.map_id s

theorem bytesOf_inj {a b : String} (h : bytesOf a = bytesOf b) : a = b := by
  have hchars := congrArg decodeLossy h
  rw [bytesOf, bytesOf, decodeLossy_utf8, decodeLossy_utf8] at hchars
  exact String.toList_inj.1 hchars

theorem decodeLossy_utf8_append (s : List Char) (rest : List UInt8) :
    decodeLossy (utf8 s ++ rest) = s ++ decodeLossy rest := by
  rw [decodeLossy, Utf8.characters_utf8_append, List.map_append, List.map_map]
  exact congrArg (· ++ decodeLossy rest) (List.map_id s)

/-! ## Order -/

theorem ofNat_cons_lt {a b : Nat} (ha : a < 256) (hb : b < 256) {s t : List UInt8}
    (h : a < b ∨ a = b ∧ s < t) : UInt8.ofNat a :: s < UInt8.ofNat b :: t := by
  rw [List.cons_lt_cons_iff]
  rcases h with h | ⟨rfl, h⟩
  · exact .inl ((UInt8.ofNat_lt_iff_lt ha hb).2 h)
  · exact .inr ⟨rfl, h⟩

/-- The last byte holds the last six bits. -/
theorem lastByte_lt {v w : Nat} (h : v % 64 < w % 64) (r r' : List UInt8) :
    UInt8.ofNat (v % 64 + 0x80) :: r < UInt8.ofNat (w % 64 + 0x80) :: r' :=
  ofNat_cons_lt (by omega) (by omega) (.inl (by omega))

theorem lastTwoBytes_lt {v w : Nat} (h : v % 4096 < w % 4096) (r r' : List UInt8) :
    UInt8.ofNat (v / 64 % 64 + 0x80) :: UInt8.ofNat (v % 64 + 0x80) :: r <
      UInt8.ofNat (w / 64 % 64 + 0x80) :: UInt8.ofNat (w % 64 + 0x80) :: r' := by
  refine ofNat_cons_lt (by omega) (by omega) ?_
  by_cases hfirst : v / 64 % 64 < w / 64 % 64
  · exact .inl (by omega)
  · exact .inr ⟨by omega, lastByte_lt (by omega) r r'⟩

theorem lastThreeBytes_lt {v w : Nat} (h : v % 262144 < w % 262144) (r r' : List UInt8) :
    UInt8.ofNat (v / 4096 % 64 + 0x80) :: UInt8.ofNat (v / 64 % 64 + 0x80) ::
        UInt8.ofNat (v % 64 + 0x80) :: r <
      UInt8.ofNat (w / 4096 % 64 + 0x80) :: UInt8.ofNat (w / 64 % 64 + 0x80) ::
        UInt8.ofNat (w % 64 + 0x80) :: r' := by
  refine ofNat_cons_lt (by omega) (by omega) ?_
  by_cases hfirst : v / 4096 % 64 < w / 4096 % 64
  · exact .inl (by omega)
  · exact .inr ⟨by omega, lastTwoBytes_lt (by omega) r r'⟩

/-- The bytes of a smaller character come first.  Where it takes fewer bytes its first byte is
smaller; where the sizes agree and the first bytes too, the bytes behind them decide. -/
theorem utf8EncodeChar_append_lt {c d : Char} (h : c < d) (r r' : List UInt8) :
    String.utf8EncodeChar c ++ r < String.utf8EncodeChar d ++ r' := by
  have hd : d.toNat < 0x110000 := by
    have : d.toNat < 0xD800 ∨ 0xDFFF < d.toNat ∧ d.toNat < 0x110000 := d.valid
    omega
  have hcd : c.toNat < d.toNat := h
  unfold String.utf8EncodeChar
  simp only [Char.toNat_val]
  generalize c.toNat = v at hcd
  generalize d.toNat = w at hcd hd
  split
  · split
    · exact ofNat_cons_lt (by omega) (by omega) (.inl hcd)
    · split
      · exact ofNat_cons_lt (by omega) (by omega) (.inl (by omega))
      · split <;> exact ofNat_cons_lt (by omega) (by omega) (.inl (by omega))
  · rw [if_neg (show ¬w ≤ 0x7f by omega)]
    split
    · split
      · refine ofNat_cons_lt (by omega) (by omega) ?_
        by_cases hlead : v / 64 % 32 + 192 < w / 64 % 32 + 192
        · exact .inl hlead
        · exact .inr ⟨by omega, lastByte_lt (by omega) r r'⟩
      · split <;> exact ofNat_cons_lt (by omega) (by omega) (.inl (by omega))
    · rw [if_neg (show ¬w ≤ 0x7ff by omega)]
      split
      · split
        · refine ofNat_cons_lt (by omega) (by omega) ?_
          by_cases hlead : v / 4096 < w / 4096
          · exact .inl (by omega)
          · exact .inr ⟨by omega, lastTwoBytes_lt (by omega) r r'⟩
        · exact ofNat_cons_lt (by omega) (by omega) (.inl (by omega))
      · rw [if_neg (show ¬w ≤ 0xffff by omega)]
        refine ofNat_cons_lt (by omega) (by omega) ?_
        by_cases hlead : v / 262144 < w / 262144
        · exact .inl (by omega)
        · exact .inr ⟨by omega, lastThreeBytes_lt (by omega) r r'⟩

theorem append_lt_append {p s t : List UInt8} (h : s < t) : p ++ s < p ++ t := by
  induction p with
  | nil => exact h
  | cons b p ih => exact List.cons_lt_cons_iff.2 (.inr ⟨rfl, ih⟩)

/-- **The order of code points is kept by the bytes.** -/
theorem utf8_lt {s t : List Char} (h : s < t) : utf8 s < utf8 t := by
  induction s generalizing t with
  | nil =>
    cases t with
    | nil => exact absurd h (List.not_lt_nil _)
    | cons d t =>
      rw [utf8_nil, utf8_cons]
      obtain ⟨b, tail, hb, -⟩ := Utf8.afterLead_utf8EncodeChar d
      rw [hb]
      exact List.nil_lt_cons _ _
  | cons c s ih =>
    cases t with
    | nil => exact absurd h (List.not_lt_nil _)
    | cons d t =>
      rw [utf8_cons, utf8_cons]
      rcases List.cons_lt_cons_iff.1 h with hcd | ⟨rfl, hst⟩
      · exact utf8EncodeChar_append_lt hcd _ _
      · exact append_lt_append (ih hst)

theorem bytesOf_lt {a b : String} (h : a < b) : bytesOf a < bytesOf b :=
  utf8_lt (String.lt_iff.1 h)

theorem bytesOf_lt_iff {a b : String} : bytesOf a < bytesOf b ↔ a < b := by
  refine ⟨fun h => ?_, bytesOf_lt⟩
  rcases Std.lt_trichotomy a b with hlt | rfl | hgt
  · exact hlt
  · exact absurd h (List.lt_irrefl _)
  · exact absurd (bytesOf_lt hgt) (List.lt_asymm h)

/-! ## Where characters start -/

namespace Utf8

/-- Whether bytes are none or begin with one that continues no character. -/
def Starts (s : List UInt8) : Prop := ∀ b ∈ s.head?, b < 0x80 ∨ 0xC0 ≤ b

theorem tail?_append {lo hi : UInt8} (hlo : 0x80 ≤ lo) (hhi : hi ≤ 0xBF) (s : List UInt8)
    {rest : List UInt8} (h : Starts rest) : tail? lo hi (s ++ rest) = (tail? lo hi s).map fun p =>
      (p.1, p.2 ++ rest) := by
  cases s with
  | cons b s =>
    rw [List.cons_append, tail?, tail?]
    split <;> rfl
  | nil =>
    cases rest with
    | nil => rfl
    | cons b rest =>
      have hb := h b rfl
      rw [List.nil_append, tail?, if_neg]
      · rfl
      · simp only [Bool.and_eq_true, decide_eq_true_eq]
        rintro ⟨h1, h2⟩
        simp only [UInt8.lt_iff_toNat_lt, UInt8.le_iff_toNat_le] at *
        have e1 : (0x80 : UInt8).toNat = 0x80 := rfl
        have e2 : (0xBF : UInt8).toNat = 0xBF := rfl
        have e3 : (0xC0 : UInt8).toNat = 0xC0 := rfl
        omega

theorem more_append (value count : Nat) (s : List UInt8) {rest : List UInt8} (h : Starts rest) :
    more value count (s ++ rest) = ((more value count s).1, (more value count s).2 ++ rest) := by
  induction count generalizing value s with
  | zero => rfl
  | succ count ih =>
    rw [more, more, tail?_append (by decide) (by decide) s h]
    cases tail? 0x80 0xBF s with
    | none => rfl
    | some p => exact ih _ _

theorem narrowed_append {lo hi : UInt8} (hlo : 0x80 ≤ lo) (hhi : hi ≤ 0xBF) (value count : Nat)
    (s : List UInt8) {rest : List UInt8} (h : Starts rest) :
    narrowed lo hi value count (s ++ rest) =
      ((narrowed lo hi value count s).1, (narrowed lo hi value count s).2 ++ rest) := by
  rw [narrowed, narrowed, tail?_append hlo hhi s h]
  cases tail? lo hi s with
  | none => rfl
  | some p => exact more_append _ _ _ h

theorem afterLead_append (b : UInt8) (s : List UInt8) {rest : List UInt8} (h : Starts rest) :
    afterLead b (s ++ rest) = ((afterLead b s).1, (afterLead b s).2 ++ rest) := by
  unfold afterLead
  split
  · rfl
  split
  · rfl
  split
  · exact more_append _ _ _ h
  split
  · exact narrowed_append (by decide) (by decide) _ _ _ h
  split
  · exact narrowed_append (by decide) (by decide) _ _ _ h
  split
  · exact more_append _ _ _ h
  split
  · exact narrowed_append (by decide) (by decide) _ _ _ h
  split
  · exact more_append _ _ _ h
  split
  · exact narrowed_append (by decide) (by decide) _ _ _ h
  · rfl

/-- No character runs across the start of another one. -/
theorem characters_append_of_starts (s : List UInt8) {rest : List UInt8} (h : Starts rest) :
    characters (s ++ rest) = characters s ++ characters rest := by
  induction hn : s.length using Nat.strongRecOn generalizing s with
  | ind n ih =>
    cases s with
    | nil => rw [characters]; rfl
    | cons b s =>
      have hlt : (afterLead b s).2.length < n := by
        have := afterLead_length b s
        rw [← hn, List.length_cons]
        omega
      rw [List.cons_append, characters, characters, afterLead_append b s h]
      simp only
      rw [ih _ hlt _ rfl]
      rfl

theorem length_characters_le (s : List UInt8) : (characters s).length ≤ s.length := by
  induction hn : s.length using Nat.strongRecOn generalizing s with
  | ind n ih =>
    cases s with
    | nil => rw [characters]; exact Nat.zero_le _
    | cons b s =>
      have hle := afterLead_length b s
      have := ih (afterLead b s).2.length (by rw [← hn, List.length_cons]; omega) _ rfl
      rw [characters, List.length_cons, ← hn, List.length_cons]
      omega

theorem starts_utf8EncodeChar (c : Char) (rest : List UInt8) :
    Starts (String.utf8EncodeChar c ++ rest) := by
  have hc : c.toNat < 0x110000 := by
    have : c.toNat < 0xD800 ∨ 0xDFFF < c.toNat ∧ c.toNat < 0x110000 := c.valid
    omega
  have e1 : (0x80 : UInt8).toNat = 0x80 := rfl
  have e2 : (0xC0 : UInt8).toNat = 0xC0 := rfl
  intro b hb
  rw [UInt8.lt_iff_toNat_lt, UInt8.le_iff_toNat_le, e1, e2]
  rw [String.utf8EncodeChar] at hb
  simp only [Char.toNat_val] at hb
  generalize c.toNat = v at hb hc
  split at hb
  · rw [← Option.some.inj hb, UInt8.toNat_ofNat_of_lt' (show v < 256 by omega)]
    omega
  · split at hb
    · rw [← Option.some.inj hb, UInt8.toNat_ofNat_of_lt' (show v / 64 % 32 + 192 < 256 by omega)]
      omega
    · split at hb
      · rw [← Option.some.inj hb,
          UInt8.toNat_ofNat_of_lt' (show v / 4096 % 16 + 224 < 256 by omega)]
        omega
      · rw [← Option.some.inj hb,
          UInt8.toNat_ofNat_of_lt' (show v / 262144 % 8 + 240 < 256 by omega)]
        omega

end Utf8

/-- **The bytes of a word are found only where the word is.** -/
theorem utf8_infix_iff {w s : List Char} : utf8 w <:+: utf8 s ↔ w <:+: s := by
  constructor
  · rintro ⟨front, back, heq⟩
    cases w with
    | nil => exact List.nil_infix
    | cons c w =>
      have hread := congrArg Utf8.characters heq
      rw [List.append_assoc, utf8_cons, List.append_assoc,
        Utf8.characters_append_of_starts front (Utf8.starts_utf8EncodeChar c _),
        ← List.append_assoc, ← utf8_cons, Utf8.characters_utf8_append, Utf8.characters_utf8] at hread
      have hin : (c :: w).map some <:+: s.map some := ⟨_, _, (List.append_assoc _ _ _).trans hread⟩
      obtain ⟨word, hword, hmap⟩ := List.infix_map_iff.1 hin
      rwa [(List.map_inj_right fun _ _ => Option.some.inj).1 hmap]
  · rintro ⟨front, back, rfl⟩
    exact ⟨utf8 front, utf8 back, by simp only [utf8, List.flatMap_append]⟩

end ErrorReport.Text
