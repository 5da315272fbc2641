import ErrorReport.Text.Percent
import ErrorReport.Proofs.Text.Utf8
import Mathlib.Data.List.Basic

/-!
# Percent escapes, there and back

`decodeText_encode`: a text is read back from its escaped form, whichever characters are escaped, as
long as the percent sign is one of them.

Reading never makes a text longer, and only a text without escapes keeps its length: it is its own
reading (`decodeText_eq_self`).  The bytes of escapes may run together into characters, but never
with those of a character that stands for itself, because no byte that starts a character continues
another one (`Utf8.characters_append_of_starts`).
-/

set_option autoImplicit false

namespace ErrorReport.Text

namespace Percent

/-! ## Reading what was written -/

theorem decode_escape (b : UInt8) (rest : List Char) :
    decode (escape b ++ rest) = b :: decode rest := by
  have hb : b.toNat < 256 := b.toNat_lt
  have hhigh := Hex.value?_upperDigit (b.toNat / 16) (by omega)
  have hlow := Hex.value?_upperDigit (b.toNat % 16) (by omega)
  rw [escape, List.cons_append, List.cons_append, List.cons_append, List.nil_append, decode, hhigh,
    hlow]
  simp only
  rw [show b.toNat / 16 * 16 + b.toNat % 16 = b.toNat by omega, UInt8.ofNat_toNat]

theorem decode_escapes (bytes : List UInt8) (rest : List Char) :
    decode (bytes.flatMap escape ++ rest) = bytes ++ decode rest := by
  induction bytes with
  | nil => rfl
  | cons b bytes ih => rw [List.flatMap_cons, List.append_assoc, decode_escape, ih]; rfl

theorem decode_cons {c : Char} (rest : List Char) (h : c ≠ '%') :
    decode (c :: rest) = String.utf8EncodeChar c ++ decode rest := by
  rw [decode.eq_def]
  split
  · rename_i heq
    exact absurd (List.cons.inj heq).1 h
  · rename_i heq
    obtain ⟨rfl, rfl⟩ := List.cons.inj heq
    rfl
  · rename_i heq
    exact absurd heq (by simp)

theorem decode_encode {reserved : Char → Bool} (hpercent : reserved '%' = true)
    (s rest : List Char) :
    decode (encode reserved s ++ rest) = utf8 s ++ decode rest := by
  induction s with
  | nil => rfl
  | cons c s ih =>
    rw [encode, List.flatMap_cons, List.append_assoc, utf8_cons, List.append_assoc, ← ih]
    show decode (encodeChar reserved c ++ (encode reserved s ++ rest)) = _
    rw [encodeChar]
    split
    · exact decode_escapes _ _
    · rename_i hc
      have hne : c ≠ '%' := by
        rintro rfl
        rw [hpercent, Bool.or_true] at hc
        exact hc rfl
      exact decode_cons _ hne

/-- **A text is read back from its escaped form.** -/
theorem decodeText_encode {reserved : Char → Bool} (hpercent : reserved '%' = true)
    (s : List Char) :
    decodeText (encode reserved s) = s := by
  have h := decode_encode hpercent s []
  rw [List.append_nil] at h
  rw [decodeText, h, decode, List.append_nil]
  exact decodeLossy_utf8 s

@[simp] theorem decodeText_nil : decodeText [] = [] := by
  rw [decodeText, decode]
  exact decodeLossy_utf8 []

/-- A text without escapes stands for its own bytes. -/
theorem decode_of_not_mem {s : List Char} (h : '%' ∉ s) : decode s = utf8 s := by
  induction s with
  | nil => rfl
  | cons c s ih =>
    rw [List.mem_cons, not_or] at h
    rw [decode_cons s (Ne.symm h.1), ih h.2, utf8_cons]

theorem decodeText_of_not_mem {s : List Char} (h : '%' ∉ s) : decodeText s = s := by
  rw [decodeText, decode_of_not_mem h]
  exact decodeLossy_utf8 s

/-- What stands in front of all escapes stands for itself. -/
theorem decodeText_append {s : List Char} (h : '%' ∉ s) (rest : List Char) :
    decodeText (s ++ rest) = s ++ decodeText rest := by
  have hdecode : decode (s ++ rest) = utf8 s ++ decode rest := by
    induction s with
    | nil => rfl
    | cons c s ih =>
      rw [List.mem_cons, not_or] at h
      rw [List.cons_append, decode_cons _ (Ne.symm h.1), ih h.2, utf8_cons, List.append_assoc]
  rw [decodeText, hdecode, decodeLossy_utf8_append]
  rfl

/-! ## The characters of an escaped text -/

theorem upperDigit_facts :
    ∀ n : Fin 16, (Hex.upperDigit n).isAlphanum ∧ (Hex.upperDigit n).toNat < 0x7F ∧
    0x20 ≤ (Hex.upperDigit n).toNat := by decide

theorem mem_escape {b : UInt8} {c : Char} (h : c ∈ escape b) :
    (c = '%' ∨ c.isAlphanum) ∧ 0x20 ≤ c.toNat ∧ c.toNat < 0x7F := by
  have hb : b.toNat < 256 := b.toNat_lt
  simp only [escape, List.mem_cons, List.not_mem_nil, or_false] at h
  rcases h with rfl | rfl | rfl
  · decide
  · have hdigit := upperDigit_facts ⟨b.toNat / 16, by omega⟩
    exact ⟨.inr hdigit.1, hdigit.2.2, hdigit.2.1⟩
  · have hdigit := upperDigit_facts ⟨b.toNat % 16, by omega⟩
    exact ⟨.inr hdigit.1, hdigit.2.2, hdigit.2.1⟩

/-- What is written is printable ASCII, and what is not of an escape is of the text and not
reserved. -/
theorem mem_encode {reserved : Char → Bool} {s : List Char} {c : Char} (h : c ∈ encode reserved s) :
    (c = '%' ∨ c.isAlphanum ∨ c ∈ s ∧ reserved c = false) ∧ 0x20 ≤ c.toNat ∧ c.toNat < 0x7F := by
  obtain ⟨d, hmem, hc⟩ := List.mem_flatMap.1 h
  rw [encodeChar] at hc
  split at hc
  · obtain ⟨b, -, hb⟩ := List.mem_flatMap.1 hc
    obtain ⟨hkind, hbounds⟩ := mem_escape hb
    exact ⟨hkind.imp_right .inl, hbounds⟩
  · rename_i hd
    obtain rfl := List.mem_singleton.1 hc
    simp only [isUnprintable, Bool.or_eq_true, decide_eq_true_eq, not_or] at hd
    exact ⟨.inr (.inr ⟨hmem, by simpa using hd.2⟩), by omega, by omega⟩

theorem encode_ne_nil {reserved : Char → Bool} {s : List Char} (h : s ≠ []) :
    encode reserved s ≠ [] := by
  obtain ⟨c, s, rfl⟩ := List.exists_cons_of_ne_nil h
  have hc : encodeChar reserved c ≠ [] := by
    rw [encodeChar]
    split
    · obtain ⟨b, tail, hbytes, -⟩ := Utf8.afterLead_utf8EncodeChar c
      rw [hbytes]
      simp [escape]
    · simp
  rw [encode, List.flatMap_cons]
  exact fun hnil => hc (List.append_eq_nil_iff.1 hnil).1

/-- What is written stands for something. -/
theorem decode_ne_nil {s : List Char} (h : s ≠ []) : decode s ≠ [] := by
  rw [decode.eq_def]
  split
  · split
    · exact List.cons_ne_nil _ _
    · simp [utf8]
  · simp
  · exact absurd rfl h

theorem decodeText_eq_nil_iff {s : List Char} : decodeText s = [] ↔ s = [] := by
  constructor
  · intro h
    by_contra hne
    obtain ⟨b, rest, hcons⟩ := List.exists_cons_of_ne_nil (decode_ne_nil hne)
    rw [decodeText, decodeLossy, hcons, Utf8.characters] at h
    exact absurd h (List.cons_ne_nil _ _)
  · rintro rfl
    exact decodeText_nil

/-- A text of nothing but plain characters is its own escaped form. -/
theorem encode_eq_self {reserved : Char → Bool} {s : List Char}
    (h : ∀ c ∈ s, isUnprintable c = false ∧ reserved c = false) : encode reserved s = s := by
  induction s with
  | nil => rfl
  | cons c s ih =>
    obtain ⟨hprint, hplain⟩ := h c List.mem_cons_self
    have hc : encodeChar reserved c = [c] := by
      rw [encodeChar, hprint, hplain]
      rfl
    have hs := ih fun d hd => h d (List.mem_cons_of_mem _ hd)
    rw [encode] at hs ⊢
    rw [List.flatMap_cons, hc, hs]
    rfl

/-! ## Reading any text -/

/-- Bytes that never make more characters than a text has, one for each byte in front of them not
counted, and as many only if they are the bytes of the text itself. -/
def Within (bytes : List UInt8) (s : List Char) : Prop :=
  ∀ front : List UInt8, (Utf8.characters (front ++ bytes)).length ≤ front.length + s.length ∧
    ((Utf8.characters (front ++ bytes)).length = front.length + s.length → bytes = utf8 s)

theorem within_nil : Within [] [] := by
  intro front
  rw [List.append_nil]
  exact ⟨Utf8.length_characters_le front, fun _ => rfl⟩

theorem Within.char {bytes : List UInt8} {s : List Char} (h : Within bytes s) (c : Char) :
    Within (String.utf8EncodeChar c ++ bytes) (c :: s) := by
  intro front
  obtain ⟨hle, heq⟩ := h []
  have hfront := Utf8.length_characters_le front
  rw [List.nil_append, List.length_nil, Nat.zero_add] at hle heq
  rw [Utf8.characters_append_of_starts front (Utf8.starts_utf8EncodeChar c _),
    Utf8.characters_append, List.length_append, List.length_cons, List.length_cons]
  refine ⟨by omega, fun h => ?_⟩
  rw [heq (by omega)]
  rfl

/-- The byte of an escape may belong to a character, but is shorter than the escape. -/
theorem Within.escape {bytes : List UInt8} {s : List Char} (h : Within bytes s) (b : UInt8)
    (high low : Char) : Within (b :: bytes) ('%' :: high :: low :: s) := by
  intro front
  have hle := (h (front ++ [b])).1
  rw [List.append_assoc, List.singleton_append, List.length_append, List.length_singleton] at hle
  simp only [List.length_cons]
  exact ⟨by omega, fun h => by omega⟩

theorem within_decode (s : List Char) : Within (decode s) s := by
  induction s using decode.induct with
  | case1 high low rest h l hhigh hlow ih =>
    rw [decode, hhigh, hlow]
    exact ih.escape _ high low
  | case2 high low rest hno ih =>
    have hdecode : decode ('%' :: high :: low :: rest) =
        String.utf8EncodeChar '%' ++ decode (high :: low :: rest) := by
      rw [decode]
      split
      · rename_i h l hhigh hlow
        exact absurd hlow (hno h l hhigh)
      · rfl
    rw [hdecode]
    exact ih.char '%'
  | case3 c rest hno ih =>
    have hdecode : decode (c :: rest) = String.utf8EncodeChar c ++ decode rest := by
      rw [decode.eq_def]
      split
      · rename_i high low more heq
        obtain ⟨rfl, rfl⟩ := List.cons.inj heq
        exact absurd rfl (hno _ _ _ rfl)
      · rename_i heq
        obtain ⟨rfl, rfl⟩ := List.cons.inj heq
        rfl
      · rename_i heq
        exact absurd heq (by simp)
    rw [hdecode]
    exact ih.char c
  | case4 =>
    rw [decode]
    exact within_nil

/-- **Reading never makes a text longer.** -/
theorem length_decodeText_le (s : List Char) : (decodeText s).length ≤ s.length := by
  have h := (within_decode s []).1
  rw [decodeText, decodeLossy, List.length_map]
  simpa using h

/-- **Only a text without escapes keeps its length, and it is its own reading.** -/
theorem decodeText_eq_self {s : List Char} (h : (decodeText s).length = s.length) :
    decodeText s = s := by
  have hbytes := (within_decode s []).2
  rw [decodeText, decodeLossy, List.length_map] at h
  rw [decodeText, hbytes (by simpa using h)]
  exact decodeLossy_utf8 s

end Percent

end ErrorReport.Text
